import Coordinate.Model.Workflow

/-! # What a workflow transition does to an item

The standing of an item is what the transitions test and write. Each transition has one lemma: what it
has tested, and the standing that it leaves behind.
-/

namespace Coordinate.Checklist

section Scripts

variable {ε α β : Type} {n m : Nat}

theorem script_bind_ok {x : StateT Nat (Except ε) α} {f : α → StateT Nat (Except ε) β} {b : β} :
    (x >>= f) n = .ok (b, m) ↔ ∃ a k, x n = .ok (a, k) ∧ f a k = .ok (b, m) := by
  change (x n >>= fun p => f p.1 p.2) = _ ↔ _
  rw [Except.bind_ok]
  constructor
  · rintro ⟨⟨a, k⟩, ran, rest⟩
    exact ⟨a, k, ran, rest⟩
  · rintro ⟨a, k, ran, rest⟩
    exact ⟨(a, k), ran, rest⟩

theorem script_pure_ok {a b : α} : (pure a : StateT Nat (Except ε) α) n = .ok (b, m) ↔ a = b ∧ n = m := by
  change Except.ok (a, n) = _ ↔ _
  simp

theorem script_raiseIf_ok {wrong : Prop} [Decidable wrong] {error : ε} {u : Unit} :
    (raiseIf wrong error : StateT Nat (Except ε) Unit) n = .ok (u, m) ↔ ¬ wrong ∧ n = m := by
  unfold raiseIf
  split
  · rename_i holds
    exact ⟨fun ran => (by cases ran), fun ran => absurd holds ran.1⟩
  · rename_i fails
    exact script_pure_ok.trans ⟨fun ran => ⟨fails, ran.2⟩, fun ran => ⟨rfl, ran.2⟩⟩

theorem script_orRaise_ok {ε' : Type} {translate : ε' → ε} {x : Except ε' α} {a : α} :
    (orRaise translate x : StateT Nat (Except ε) α) n = .ok (a, m) ↔ x = .ok a ∧ n = m := by
  cases x with
  | ok value => exact script_pure_ok.trans (and_congr_left fun _ => Except.ok.injEq _ _ ▸ Iff.rfl)
  | error e => exact ⟨fun ran => (by cases ran), fun ran => (by cases ran.1)⟩

variable [Platform]

theorem utcNow_ok {time : Nat} : utcNow n = .ok (time, m) ↔ time = now n ∧ m = n + 1 := by
  simp [utcNow, eq_comm]

theorem today_ok {date : String} : today n = .ok (date, m) ↔
    date = Text.takePrefix (Calendar.isoformat (now n)) 10 ∧ m = n + 1 := by
  change Except.ok _ = _ ↔ _
  simp [eq_comm]

theorem isoNow_ok {time : String} : isoNow n = .ok (time, m) ↔
    time = Calendar.isoformat (now n) ∧ m = n + 1 := by
  change Except.ok _ = _ ↔ _
  simp [eq_comm]

end Scripts

/-- What the transitions test and write of an item. -/
structure Standing where
  status : Json
  owner : Json
  session : Json
  lease : Json
  /-- the workflow status, if there is one -/
  workflow : Option Json
  /-- the target of the last handoff that was not accepted -/
  target : Json
  /-- the last decision of a reviewer, and the workflow status that it was about -/
  decision : Json
  phase : Json

def standingOf (item : Json) : Standing where
  status := item.get "status"
  owner := item.get "owner"
  session := item.get "selected_in_session"
  lease := item.get "lease"
  workflow := item.fieldIn? "workflow" "status"
  target := item.getIn "workflow" "handoff_target"
  decision := item.getIn "review" "decision"
  phase := item.getIn "review" "phase"

namespace Standing

/-- The workflow status, which `ensure_workflow` derives where there is none. -/
def workflowStatus (standing : Standing) : Json :=
  standing.workflow.getD (.str (
    if standing.status = .str "doing" then "running"
    else if standing.status = .str "done" then "closed"
    else if standing.status = .str "blocked" then "blocked"
    else "todo"))

/-- Whom `decline` takes the item to be meant for. -/
def addressee (standing : Standing) : Json := standing.target.orElse standing.owner

def ensured (standing : Standing) : Standing :=
  { standing with workflow := some standing.workflowStatus }

def assigned (standing : Standing) (owner session : String) (lease : Json) : Standing :=
  { standing with
    owner := .str owner, session := .str session, lease, workflow := some (.str "assigned") }

def started (standing : Standing) (owner session : String) (lease : Json) : Standing :=
  { standing with
    status := .str "doing", owner := .str owner, session := .str session, lease,
    workflow := some (.str "running") }

def accepted (standing : Standing) (owner session : String) (lease : Json) : Standing :=
  { standing.started owner session lease with target := .null }

def renewed (standing : Standing) (owner session : String) (lease : Json) : Standing :=
  { standing with owner := .str owner, session := .str session, lease }

/-- Nobody owns the item any longer. -/
def freed (standing : Standing) (status workflow : String) (lease : Json) : Standing :=
  { standing with
    status := .str status, owner := .null, session := .null, lease, workflow := some (.str workflow) }

/-- What `release` does, which leaves the status of an item that is not worked on. -/
def given (standing : Standing) (lease : Json) : Standing :=
  { standing.freed "todo" "released" lease with
    status := if standing.status = .str "doing" then .str "todo" else standing.status }

def unblocked (standing : Standing) (lease : Json) : Standing :=
  { standing with
    status := .str "todo", lease, workflow := some (.str "unblocked"), decision := .null }

def handedOff (standing : Standing) (target : String) (lease : Json) : Standing :=
  { standing.freed "todo" "handoff_requested" lease with target := .str target }

def closingOut (standing : Standing) : Standing :=
  { standing with workflow := some (.str "closeout_requested"), decision := .null }

/-- What a reviewer has decided about the workflow status. -/
def reviewed (standing : Standing) (decision : String) : Standing :=
  { standing with
    status := if decision = "blocked" then .str "blocked" else standing.status
    workflow := some (.str (if decision = "approved" then "review_approved" else decision))
    decision := .str decision
    phase := standing.workflowStatus }

end Standing

section Items

variable {item changed : Json} {n m : Nat}

/-- The item that a transition leaves behind, by its standing. -/
structure Leaves (item changed : Json) (standing : Standing) : Prop where
  object : changed.isObj = true
  same : changed.get "id" = item.get "id"
  standing : standingOf changed = standing

/-- A lease that has been taken. -/
structure IsClaimed (lease : Json) (owner : String) : Prop where
  object : lease.isObj = true
  owner : lease.get "owner" = .str owner
  unreleased : lease.get "released_at" = .null

/-- No lease, or one that has been given back. -/
def IsReleased (lease : Json) : Prop :=
  lease = .null ∨ lease.isObj = true ∧ (lease.get "released_at").truthy = true

variable [Platform]

/-- The item with its workflow in place. -/
structure Ready (item changed : Json) : Prop where
  leaves : Leaves item changed (standingOf item).ensured
  workflow : (changed.get "workflow").isObj = true

theorem ensureWorkflow_ok (object : item.isObj = true) (ran : ensureWorkflow item n = .ok (changed, m)) :
    Ready item changed ∧ ∀ part, part ≠ "workflow" → changed.get part = item.get part := by
  simp only [ensureWorkflow, script_bind_ok, isoNow_ok, script_pure_ok] at ran
  obtain ⟨_, _, ⟨rfl, rfl⟩, rfl, rfl⟩ := ran
  by_cases part : (item.get "workflow").isObj
  · rw [if_pos part]
    refine ⟨⟨⟨by simpa using object, by simp, ?_⟩, by simpa [object] using part⟩,
      fun part other => by simp [other]⟩
    simp [standingOf, Standing.ensured, Standing.workflowStatus, defaultWorkflowStatus, Json.getIn_eq,
      Json.fieldIn?, object, part]
    rfl
  · rw [if_neg part]
    rw [Bool.not_eq_true] at part
    refine ⟨⟨⟨by simpa using object, by simp, ?_⟩, by simp [object]⟩, fun part other => by simp [other]⟩
    simp [standingOf, Standing.ensured, Standing.workflowStatus, defaultWorkflowStatus, Json.getIn_eq,
      Json.fieldIn?, object, Json.field?_of_not_isObj part]

omit [Platform] in
theorem isoformat_truthy (time : Nat) : (Json.str (Calendar.isoformat time)).truthy = true := by
  rw [Json.truthy, decide_eq_true_eq, Calendar.isoformat]
  intro empty
  have chars := congrArg String.toList empty
  simp at chars

theorem claimLease_ok {site : Site} {owner session : String} {given : Option Int}
    (ran : claimLease site item owner session given n = .ok (changed, m)) :
    ∃ lease, changed = item.set "lease" lease ∧ IsClaimed lease owner := by
  simp only [claimLease, script_bind_ok, script_orRaise_ok, utcNow_ok, script_raiseIf_ok,
    script_pure_ok] at ran
  obtain ⟨_, _, -, _, _, -, _, _, -, _, _, -, rfl, -⟩ := ran
  exact ⟨_, rfl, rfl, rfl, rfl⟩

theorem releaseLease_ok (ran : releaseLease item n = .ok (changed, m)) :
    ∃ lease, changed = item.set "lease" lease ∧ IsReleased lease := by
  unfold releaseLease at ran
  split at ran
  · obtain ⟨rfl, -⟩ := script_pure_ok.mp ran
    exact ⟨_, rfl, .inl rfl⟩
  · rename_i object
    rw [Bool.not_eq_true', Bool.not_eq_false] at object
    split at ran
    · rename_i released
      obtain ⟨rfl, -⟩ := script_pure_ok.mp ran
      exact ⟨_, rfl, .inr ⟨object, released⟩⟩
    · simp only [script_bind_ok, isoNow_ok, script_pure_ok] at ran
      obtain ⟨_, _, ⟨rfl, rfl⟩, rfl, -⟩ := ran
      refine ⟨_, rfl, .inr ⟨by simpa using object, ?_⟩⟩
      rw [Json.get_set_self object]
      exact isoformat_truthy _

omit [Platform] in
theorem ensureArtifacts_leaves (object : item.isObj = true) :
    Leaves item (ensureArtifacts item) (standingOf item) ∧
      (ensureArtifacts item).get "workflow" = item.get "workflow" := by
  unfold ensureArtifacts
  split
  · exact ⟨⟨object, rfl, rfl⟩, rfl⟩
  · refine ⟨⟨by simpa using object, by simp, ?_⟩, by simp⟩
    simp [standingOf, Json.getIn_eq]

omit [Platform] in
theorem ensureReview_leaves (object : item.isObj = true) :
    Leaves item (ensureReview item) (standingOf item) ∧
      ((ensureReview item).get "review").isObj = true ∧
      (ensureReview item).get "workflow" = item.get "workflow" := by
  unfold ensureReview
  by_cases part : (item.get "review").isObj
  · rw [if_pos part]
    refine ⟨⟨by simpa using object, by simp, ?_⟩, by simpa [object] using part, by simp⟩
    simp [standingOf, Json.getIn_eq, Json.fieldIn?, object, part]
  · rw [if_neg part]
    rw [Bool.not_eq_true] at part
    refine ⟨⟨by simpa using object, by simp, ?_⟩, by simp [object], by simp⟩
    simp [standingOf, Json.getIn_eq, Json.fieldIn?, object, Json.field?_of_not_isObj part]

omit [Platform] in
theorem Leaves.trans {middle : Json} {first second : Standing} (left : Leaves item middle first)
    (right : Leaves middle changed second) : Leaves item changed second :=
  ⟨right.object, right.same.trans left.same, right.standing⟩

omit [Platform] in
theorem Ready.withArtifacts (ready : Ready item changed) : Ready item (ensureArtifacts changed) := by
  obtain ⟨placed, same⟩ := ensureArtifacts_leaves ready.leaves.object
  have leaves := ready.leaves.trans placed
  rw [ready.leaves.standing] at leaves
  exact ⟨leaves, same ▸ ready.workflow⟩

omit [Platform] in
theorem Ready.withReview (ready : Ready item changed) : Ready item (ensureReview changed) ∧
    ((ensureReview changed).get "review").isObj = true := by
  obtain ⟨placed, review, same⟩ := ensureReview_leaves ready.leaves.object
  have leaves := ready.leaves.trans placed
  rw [ready.leaves.standing] at leaves
  exact ⟨⟨leaves, same ▸ ready.workflow⟩, review⟩

/-- `ensure_workflow` after `ensure_review`. -/
theorem ensured_review (object : item.isObj = true)
    (ran : ensureWorkflow (ensureReview item) n = .ok (changed, m)) :
    Ready item changed ∧ (changed.get "review").isObj = true := by
  obtain ⟨placed, review, -⟩ := ensureReview_leaves object
  obtain ⟨ready, others⟩ := ensureWorkflow_ok placed.object ran
  have leaves := placed.trans ready.leaves
  rw [placed.standing] at leaves
  refine ⟨⟨leaves, ready.workflow⟩, ?_⟩
  rw [others _ (by decide)]
  exact review

omit [Platform] in
/-- What a transition writes over an item that is ready. -/
theorem Ready.write {v : Json} (ready : Ready item v) (f : Standing → Standing)
    (absorbs : ∀ standing : Standing, f standing.ensured = f standing) (object : changed.isObj = true)
    (same : changed.get "id" = v.get "id") (standing : standingOf changed = f (standingOf v)) :
    Leaves item changed (f (standingOf item)) := by
  refine ⟨object, same.trans ready.leaves.same, ?_⟩
  rw [standing, ready.leaves.standing, absorbs]

/-- A claim that is refused where the lease of another owner is active at a reading of the clock. -/
def Free [Scripting] (item : Json) (owner : String) (targeted : Bool) (n : Nat) : Prop :=
  ∀ lease, activeLease item (now n) = .ok (some lease) →
    lease.get "owner" = .str owner ∨ targeted = true

variable [Scripting] {checklist : Json} {site : Site}

theorem assertFree_ok {owner leaseHint ownerHint : String} {targeted : Bool} {u : Unit}
    (ran : assertFree item owner false targeted leaseHint ownerHint n = .ok (u, m)) :
    Free item owner targeted n := by
  simp only [assertFree, script_bind_ok, utcNow_ok, script_orRaise_ok, script_raiseIf_ok] at ran
  obtain ⟨_, _, ⟨rfl, rfl⟩, found, _, ⟨active, rfl⟩, _, _, ⟨free, rfl⟩, -⟩ := ran
  intro lease same
  rw [active] at same
  cases same
  simp only [Option.any_some, decide_eq_true_eq, Bool.false_eq_true, not_false_eq_true, true_and,
    not_and, Bool.not_eq_true, ne_eq] at free
  by_cases owned : lease.get "owner" = .str owner
  · exact .inl owned
  · exact .inr (by simpa using free owned)

/-- What `assert_claimable` and `assert_can_start` let pass. -/
structure Claimable (item : Json) (owner : String) (targeted : Bool) (n : Nat) : Prop where
  open_ : item.get "status" ≠ .str "done"
  unblocked : item.get "status" ≠ .str "blocked"
  free : Free item owner targeted n

theorem assertClaimable_ok {owner : String} {reason : Option String} {u : Unit}
    (ran : assertClaimable checklist item owner false reason n = .ok (u, m)) :
    Claimable item owner (isHandoffTarget item owner) n := by
  simp only [assertClaimable, script_bind_ok, script_orRaise_ok, script_raiseIf_ok, assertNotDone,
    raiseIf_except_ok] at ran
  obtain ⟨_, _, ⟨-, rfl⟩, _, _, ⟨open_, rfl⟩, _, _, ⟨unblocked, rfl⟩, _, _, ⟨-, rfl⟩, ran⟩ := ran
  exact ⟨open_, fun blocked => unblocked ⟨blocked, by decide⟩, assertFree_ok ran⟩

theorem assertCanStart_ok {owner : String} {reason : Option String} {u : Unit}
    (ran : assertCanStart checklist item owner false reason n = .ok (u, m)) :
    Claimable item owner false n := by
  simp only [assertCanStart, script_bind_ok, script_orRaise_ok, script_raiseIf_ok, assertNotDone,
    raiseIf_except_ok] at ran
  obtain ⟨_, _, ⟨-, rfl⟩, _, _, ⟨open_, rfl⟩, _, _, ⟨unblocked, rfl⟩, _, _, ⟨-, rfl⟩, ran⟩ := ran
  exact ⟨open_, fun blocked => unblocked ⟨blocked, by decide⟩, assertFree_ok ran⟩

theorem assignItem_ok {arguments : ClaimArguments} (object : item.isObj = true)
    (unforced : arguments.force = false)
    (ran : assignItem site arguments checklist item n = .ok (changed, m)) :
    Claimable item arguments.owner (isHandoffTarget item arguments.owner) n ∧
      ∃ lease, IsClaimed lease arguments.owner ∧
        Leaves item changed ((standingOf item).assigned arguments.owner arguments.session lease) := by
  rw [assignItem, unforced] at ran
  obtain ⟨_, _, claimable, ran⟩ := script_bind_ok.mp ran
  refine ⟨assertClaimable_ok claimable, ?_⟩
  obtain ⟨w, _, ensured, ran⟩ := script_bind_ok.mp ran
  have ready := (ensureWorkflow_ok object ensured).1.withArtifacts.withReview.1
  generalize ensureReview (ensureArtifacts w) = v at ready ran
  simp only [script_bind_ok, script_orRaise_ok, today_ok] at ran
  obtain ⟨branch, _, ⟨-, rfl⟩, planPath, _, ⟨-, rfl⟩, located, _, ⟨-, rfl⟩, _, _, ⟨rfl, rfl⟩, _, _,
    ⟨rfl, rfl⟩, claimed⟩ := ran
  obtain ⟨lease, rfl, taken⟩ := claimLease_ok claimed
  have object := ready.leaves.object
  have workflow := ready.workflow
  refine ⟨lease, taken, ready.write (·.assigned arguments.owner arguments.session lease)
    (fun _ => rfl) ?_ ?_ ?_⟩
  · cases located <;> simpa using object
  · cases located <;> simp
  · cases located <;>
      simp [standingOf, Standing.assigned, Json.getIn_eq, object, workflow]

theorem acceptItem_ok {arguments : ClaimArguments} (object : item.isObj = true)
    (unforced : arguments.force = false)
    (ran : acceptItem site arguments checklist item n = .ok (changed, m)) :
    Claimable item arguments.owner (isHandoffTarget item arguments.owner) n ∧
      ∃ lease, IsClaimed lease arguments.owner ∧
        Leaves item changed ((standingOf item).accepted arguments.owner arguments.session lease) := by
  rw [acceptItem, unforced] at ran
  obtain ⟨_, _, claimable, ran⟩ := script_bind_ok.mp ran
  refine ⟨assertClaimable_ok claimable, ?_⟩
  obtain ⟨w, _, ensured, ran⟩ := script_bind_ok.mp ran
  obtain ⟨branch, _, branched, ran⟩ := script_bind_ok.mp ran
  obtain ⟨-, rfl⟩ := script_orRaise_ok.mp branched
  have ready := (ensureWorkflow_ok object ensured).1.withArtifacts
  generalize ensureArtifacts w = v at ready ran
  simp only [script_bind_ok, today_ok] at ran
  obtain ⟨_, _, ⟨rfl, rfl⟩, _, _, ⟨rfl, rfl⟩, claimed⟩ := ran
  obtain ⟨lease, rfl, taken⟩ := claimLease_ok claimed
  have object := ready.leaves.object
  have workflow := ready.workflow
  refine ⟨lease, taken, ready.write (·.accepted arguments.owner arguments.session lease)
    (fun _ => rfl) (by simpa using object) (by simp) ?_⟩
  simp [standingOf, Standing.accepted, Standing.started, Json.getIn_eq, object, workflow]

theorem startItem_ok {arguments : ClaimArguments} {planPath : Path.Pure} (object : item.isObj = true)
    (ran : startItem site arguments planPath item n = .ok (changed, m)) :
    ∃ lease, IsClaimed lease arguments.owner ∧
      Leaves item changed ((standingOf item).started arguments.owner arguments.session lease) := by
  rw [startItem] at ran
  obtain ⟨w, _, ensured, ran⟩ := script_bind_ok.mp ran
  have ready := (ensureWorkflow_ok object ensured).1.withArtifacts.withReview.1
  generalize ensureReview (ensureArtifacts w) = v at ready ran
  simp only [script_bind_ok, script_orRaise_ok, today_ok] at ran
  obtain ⟨branch, _, ⟨-, rfl⟩, _, _, ⟨rfl, rfl⟩, _, _, ⟨rfl, rfl⟩, claimed⟩ := ran
  obtain ⟨lease, rfl, taken⟩ := claimLease_ok claimed
  have object := ready.leaves.object
  have workflow := ready.workflow
  refine ⟨lease, taken, ready.write (·.started arguments.owner arguments.session lease)
    (fun _ => rfl) (by simpa using object) (by simp) ?_⟩
  simp [standingOf, Standing.started, Json.getIn_eq, object, workflow]

omit [Scripting] in
theorem declineItem_ok {arguments : ActArguments} (object : item.isObj = true)
    (unforced : arguments.force = false) (ran : declineItem arguments item n = .ok (changed, m)) :
    ((standingOf item).addressee.truthy = true →
      (standingOf item).addressee = .str arguments.actor) ∧
    ∃ lease, IsReleased lease ∧ Leaves item changed ((standingOf item).freed "todo" "released" lease) := by
  rw [declineItem, unforced] at ran
  obtain ⟨v, _, ensured, ran⟩ := script_bind_ok.mp ran
  obtain ⟨ready, others⟩ := ensureWorkflow_ok object ensured
  simp only [script_bind_ok, script_raiseIf_ok, script_orRaise_ok, today_ok] at ran
  obtain ⟨_, _, ⟨meant, rfl⟩, _, _, ⟨-, rfl⟩, _, _, ⟨rfl, rfl⟩, _, _, ⟨rfl, rfl⟩, gave⟩ := ran
  obtain ⟨lease, rfl, released⟩ := releaseLease_ok gave
  have target : v.getIn "workflow" "handoff_target" = (standingOf item).target :=
    congrArg Standing.target ready.leaves.standing
  have owner : v.get "owner" = (standingOf item).owner :=
    congrArg Standing.owner ready.leaves.standing
  rw [target, owner] at meant
  have object := ready.leaves.object
  have workflow := ready.workflow
  refine ⟨fun truthy => ?_, lease, released, ready.write (·.freed "todo" "released" lease)
    (fun _ => rfl) (by simpa using object) (by simp) ?_⟩
  · by_contra other
    exact meant ⟨truthy, other, by decide⟩
  · simp [standingOf, Standing.freed, Json.getIn_eq, object, workflow]

theorem renewItem_ok {arguments : ClaimArguments} (object : item.isObj = true)
    (unforced : arguments.force = false) (ran : renewItem site arguments item n = .ok (changed, m)) :
    Free item arguments.owner false n ∧
      ((standingOf item).owner.truthy = true → (standingOf item).owner = .str arguments.owner) ∧
      ∃ lease, IsClaimed lease arguments.owner ∧
        Leaves item changed ((standingOf item).renewed arguments.owner arguments.session lease) := by
  rw [renewItem, unforced] at ran
  simp only [script_bind_ok, script_raiseIf_ok, script_orRaise_ok, utcNow_ok, today_ok] at ran
  obtain ⟨_, _, ⟨rfl, rfl⟩, found, _, ⟨active, rfl⟩, _, _, ⟨free, rfl⟩, _, _, ⟨owned, rfl⟩, _, _,
    ⟨-, rfl⟩, _, _, ⟨rfl, rfl⟩, claimed⟩ := ran
  obtain ⟨lease, rfl, taken⟩ := claimLease_ok claimed
  refine ⟨fun lease same => .inl ?_, fun truthy => ?_, lease, taken, by simpa using object, by simp, ?_⟩
  · rw [active] at same
    cases same
    by_contra other
    exact free ⟨by simpa using other, by decide⟩
  · by_contra other
    exact owned ⟨truthy, other, by decide⟩
  · simp [standingOf, Standing.renewed, Json.getIn_eq, object]

omit [Scripting] in
theorem releaseItem_ok {arguments : ActArguments} (object : item.isObj = true)
    (unforced : arguments.force = false) (ran : releaseItem arguments item n = .ok (changed, m)) :
    ((standingOf item).owner.truthy = true → (standingOf item).owner = .str arguments.actor) ∧
      ∃ lease, IsReleased lease ∧ Leaves item changed ((standingOf item).given lease) := by
  rw [releaseItem, unforced] at ran
  obtain ⟨_, _, forced, ran⟩ := script_bind_ok.mp ran
  obtain ⟨-, rfl⟩ := script_orRaise_ok.mp forced
  obtain ⟨_, _, tested, ran⟩ := script_bind_ok.mp ran
  obtain ⟨owned, rfl⟩ := script_raiseIf_ok.mp tested
  obtain ⟨v, _, ensured, ran⟩ := script_bind_ok.mp ran
  obtain ⟨ready, -⟩ := ensureWorkflow_ok object ensured
  simp only [script_bind_ok, today_ok] at ran
  obtain ⟨_, _, ⟨rfl, rfl⟩, _, _, ⟨rfl, rfl⟩, gave⟩ := ran
  obtain ⟨lease, rfl, released⟩ := releaseLease_ok gave
  have object := ready.leaves.object
  have workflow := ready.workflow
  refine ⟨fun truthy => ?_, lease, released, ready.write (·.given lease) (fun _ => rfl) ?_ ?_ ?_⟩
  · by_contra other
    exact owned ⟨truthy, other, by decide⟩
  · split <;> simpa using object
  · split <;> simp
  · split <;> rename_i doing <;>
      simp [standingOf, Standing.given, Standing.freed, Json.getIn_eq, object, workflow, doing]

omit [Scripting] in
theorem unblockItem_ok {arguments : ActArguments} (object : item.isObj = true)
    (ran : unblockItem arguments item n = .ok (changed, m)) :
    (standingOf item).status = .str "blocked" ∧
      ∃ lease, IsReleased lease ∧ Leaves item changed ((standingOf item).unblocked lease) := by
  rw [unblockItem] at ran
  obtain ⟨w, _, ensured, ran⟩ := script_bind_ok.mp ran
  obtain ⟨ready, review⟩ := (ensureWorkflow_ok object ensured).1.withReview
  generalize ensureReview w = v at ready review ran
  simp only [script_bind_ok, script_raiseIf_ok, script_orRaise_ok, today_ok] at ran
  obtain ⟨_, _, ⟨blocked, rfl⟩, _, _, ⟨-, rfl⟩, _, _, ⟨-, rfl⟩, _, _, ⟨rfl, rfl⟩, _, _, ⟨rfl, rfl⟩,
    gave⟩ := ran
  obtain ⟨lease, rfl, released⟩ := releaseLease_ok gave
  have status : v.get "status" = (standingOf item).status :=
    congrArg Standing.status ready.leaves.standing
  have object := ready.leaves.object
  have workflow := ready.workflow
  refine ⟨status ▸ not_not.mp blocked, lease, released, ready.write (·.unblocked lease)
    (fun _ => rfl) (by simpa using object) (by simp) ?_⟩
  simp [standingOf, Standing.unblocked, Json.getIn_eq, object, workflow, review]

omit [Platform] [Scripting] in
theorem putReviewTexts_leaves (arguments : ReviewArguments) (object : item.isObj = true) :
    Leaves item (putReviewTexts arguments item) (standingOf item) ∧
      (putReviewTexts arguments item).get "workflow" = item.get "workflow" := by
  unfold putReviewTexts
  cases given arguments.summary <;> cases given arguments.artifact <;>
    exact ⟨⟨by simpa using object, by simp, by simp [standingOf, Json.getIn_eq, object]⟩, by simp⟩

omit [Platform] [Scripting] in
theorem putDecision_leaves {arguments : ReviewArguments} (object : item.isObj = true)
    (workflow : (item.get "workflow").isObj = true) (known : arguments.decision ∈ approvalDecisions) :
    Leaves item (putDecision arguments item) { standingOf item with
      status := if arguments.decision = "blocked" then .str "blocked" else (standingOf item).status
      workflow := some (.str
        (if arguments.decision = "approved" then "review_approved" else arguments.decision)) } ∧
      ((putDecision arguments item).get "workflow").isObj = true := by
  simp only [approvalDecisions, List.mem_cons, List.not_mem_nil, or_false] at known
  rcases known with decision | decision | decision <;>
    simp only [putDecision, decision] <;>
    exact ⟨⟨by simpa using object, by simp, by simp [standingOf, Json.getIn_eq, object, workflow]⟩,
      by simpa [object] using workflow⟩

omit [Platform] [Scripting] in
/-- The fields of the review. -/
theorem putReview_leaves (object : item.isObj = true) (review : (item.get "review").isObj = true)
    (decision reviewer phase date : Json) :
    Leaves item ((((item.setIn "review" "decision" decision).setIn "review" "reviewer" reviewer).setIn
      "review" "phase" phase).setIn "review" "updated_at" date)
      { standingOf item with decision, phase } :=
  ⟨by simpa using object, by simp, by simp [standingOf, Json.getIn_eq, object, review]⟩

omit [Platform] [Scripting] in
theorem touched (object : item.isObj = true) (date later : Json) :
    Leaves item ((item.setIn "workflow" "updated_at" date).set "updated_at" later) (standingOf item) :=
  ⟨by simpa using object, by simp, by simp [standingOf, Json.getIn_eq, object]⟩

omit [Scripting] in
theorem reviewItem_ok {arguments : ReviewArguments} (object : item.isObj = true)
    (known : arguments.decision ∈ approvalDecisions)
    (ran : reviewItem arguments item n = .ok (changed, m)) :
    Leaves item changed ((standingOf item).reviewed arguments.decision) := by
  rw [reviewItem] at ran
  obtain ⟨v, _, ensured, ran⟩ := script_bind_ok.mp ran
  obtain ⟨ready, review⟩ := ensured_review object ensured
  simp only [script_bind_ok, script_pure_ok, today_ok] at ran
  obtain ⟨first, _, ⟨-, rfl⟩, second, _, ⟨-, rfl⟩, third, _, ⟨-, rfl⟩, rfl, -⟩ := ran
  have object := ready.leaves.object
  have workflow := ready.workflow
  have phase : v.getIn "workflow" "status" = (standingOf item).workflowStatus := by
    rw [Json.getIn_eq, show v.fieldIn? "workflow" "status" = some (standingOf item).workflowStatus from
      congrArg Standing.workflow ready.leaves.standing, Option.getD_some]
  have noted := putReview_leaves object review (.str arguments.decision) (.str arguments.reviewer)
    (v.getIn "workflow" "status") (.str first)
  obtain ⟨texts, same⟩ := putReviewTexts_leaves arguments noted.object
  obtain ⟨decided, -⟩ := putDecision_leaves texts.object (by rw [same]; simpa [object] using workflow) known
  have last := touched decided.object (.str second) (.str third)
  have whole := (((ready.leaves.trans noted).trans texts).trans decided).trans last
  refine ⟨whole.object, whole.same, whole.standing.trans ?_⟩
  rw [decided.standing, texts.standing, noted.standing, ready.leaves.standing, phase]
  rfl

omit [Scripting] in
theorem markItemDone_ok {arguments : ActArguments} (object : item.isObj = true)
    (unforced : arguments.force = false) (ran : markItemDone arguments item n = .ok (changed, m)) :
    (standingOf item).decision = .str "approved" ∧
      (standingOf item).phase = .str "closeout_requested" ∧
      ∃ lease, IsReleased lease ∧ Leaves item changed ((standingOf item).freed "done" "closed" lease) := by
  rw [markItemDone, unforced] at ran
  obtain ⟨_, _, forced, ran⟩ := script_bind_ok.mp ran
  obtain ⟨-, rfl⟩ := script_orRaise_ok.mp forced
  obtain ⟨v, _, ensured, ran⟩ := script_bind_ok.mp ran
  obtain ⟨ready, review⟩ := ensured_review object ensured
  simp only [script_bind_ok, script_raiseIf_ok, script_pure_ok, today_ok] at ran
  obtain ⟨_, _, ⟨approved, rfl⟩, _, _, ⟨closing, rfl⟩, _, _, ⟨-, rfl⟩, _, _, ⟨rfl, rfl⟩, _, _,
    ⟨rfl, rfl⟩, w, _, gave, rfl, -⟩ := ran
  obtain ⟨lease, rfl, released⟩ := releaseLease_ok gave
  have decision : v.getIn "review" "decision" = (standingOf item).decision :=
    congrArg Standing.decision ready.leaves.standing
  have phase : v.getIn "review" "phase" = (standingOf item).phase :=
    congrArg Standing.phase ready.leaves.standing
  rw [decision] at approved
  rw [phase] at closing
  have object := ready.leaves.object
  have workflow := ready.workflow
  refine ⟨?_, ?_, lease, released, ready.write (·.freed "done" "closed" lease) (fun _ => rfl) ?_ ?_ ?_⟩
  · by_contra other
    exact approved ⟨by decide, other⟩
  · by_contra other
    exact closing ⟨by decide, other⟩
  · cases given arguments.text <;> simpa using object
  · cases given arguments.text <;> simp
  · cases given arguments.text <;>
      simp [standingOf, Standing.freed, Json.getIn_eq, object, workflow]

omit [Scripting] in
theorem blockItem_ok {arguments : BlockerArguments} (object : item.isObj = true)
    (ran : blockItem site arguments item n = .ok (changed, m)) :
    ∃ lease, IsReleased lease ∧ Leaves item changed ((standingOf item).freed "blocked" "blocked" lease) := by
  rw [blockItem] at ran
  obtain ⟨w, _, ensured, ran⟩ := script_bind_ok.mp ran
  have ready := (ensureWorkflow_ok object ensured).1.withArtifacts
  generalize ensureArtifacts w = v at ready ran
  simp only [script_bind_ok, today_ok] at ran
  obtain ⟨_, _, ⟨rfl, rfl⟩, _, _, ⟨rfl, rfl⟩, gave⟩ := ran
  obtain ⟨lease, rfl, released⟩ := releaseLease_ok gave
  have object := ready.leaves.object
  have workflow := ready.workflow
  refine ⟨lease, released, ready.write (·.freed "blocked" "blocked" lease) (fun _ => rfl)
    (by simpa using object) (by simp) ?_⟩
  simp [standingOf, Standing.freed, Json.getIn_eq, object, workflow]

omit [Scripting] in
theorem handOffItem_ok {arguments : HandoffArguments} {previousOwner : Json} (object : item.isObj = true)
    (ran : handOffItem arguments previousOwner item n = .ok (changed, m)) :
    ∃ lease, IsReleased lease ∧
      Leaves item changed ((standingOf item).handedOff arguments.target lease) := by
  rw [handOffItem] at ran
  obtain ⟨w, _, ensured, ran⟩ := script_bind_ok.mp ran
  have ready := (ensureWorkflow_ok object ensured).1.withArtifacts
  generalize ensureArtifacts w = v at ready ran
  simp only [script_bind_ok, script_pure_ok, today_ok] at ran
  obtain ⟨_, _, ⟨rfl, rfl⟩, u, _, gave, _, _, ⟨rfl, rfl⟩, rfl, -⟩ := ran
  obtain ⟨lease, rfl, released⟩ := releaseLease_ok gave
  have object := ready.leaves.object
  have workflow := ready.workflow
  refine ⟨lease, released, ready.write (·.handedOff arguments.target lease) (fun _ => rfl)
    (by simpa using object) (by simp) ?_⟩
  simp [standingOf, Standing.handedOff, Standing.freed, Json.getIn_eq, object, workflow]

omit [Scripting] in
theorem closeOutItem_ok {arguments : CloseoutArguments} (object : item.isObj = true)
    (ran : closeOutItem arguments item n = .ok (changed, m)) :
    Leaves item changed (standingOf item).closingOut := by
  rw [closeOutItem] at ran
  obtain ⟨w, _, ensured, ran⟩ := script_bind_ok.mp ran
  obtain ⟨ready, review⟩ := (ensureWorkflow_ok object ensured).1.withArtifacts.withReview
  generalize ensureReview (ensureArtifacts w) = v at ready review ran
  simp only [script_bind_ok, script_pure_ok, today_ok] at ran
  obtain ⟨_, _, ⟨rfl, rfl⟩, _, _, ⟨rfl, rfl⟩, rfl, -⟩ := ran
  have object := ready.leaves.object
  have workflow := ready.workflow
  refine ready.write (·.closingOut) (fun _ => rfl) (by simpa using object) (by simp) ?_
  simp [standingOf, Standing.closingOut, Json.getIn_eq, object, workflow, review]

end Items

end Coordinate.Checklist

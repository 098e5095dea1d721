import Coordinate.Library.Machine
import Coordinate.Model.Checklist

/-! # The workflow transitions of a checklist item

`workflow_transition.py`, `activate_item.py` and the three packet scripts that move an item. A script is
what it does to the checklist files: the packets, the pointer of the current task and the event log,
which it writes beside, are read by none of the transitions.
-/

namespace Coordinate.Checklist

section Parts

variable [Platform]

def defaultWorkflowStatus (item : Json) : String :=
  let status := item.get "status"
  if status = .str "doing" then "running"
  else if status = .str "done" then "closed"
  else if status = .str "blocked" then "blocked"
  else "todo"

/-- `ensure_workflow`, as what it does to the item. -/
def ensureWorkflow (item : Json) : Script Json := do
  let workflow := if (item.get "workflow").isObj then item.get "workflow" else .obj []
  let time ← isoNow
  let status := defaultWorkflowStatus item
  return item.set "workflow"
    ((workflow.setDefault "status" (.str status)).setDefault "updated_at" (.str time))

omit [Platform] in
/-- `ensure_artifacts`. -/
def ensureArtifacts (item : Json) : Json :=
  if (item.get "artifacts").isObj then item else item.set "artifacts" (.obj [])

omit [Platform] in
/-- `ensure_review`. -/
def ensureReview (item : Json) : Json :=
  let review := if (item.get "review").isObj then item.get "review" else .obj []
  item.set "review" (review.setDefault "decision" .null)

/-- `active_lease`. -/
def activeLease [Scripting] (item : Json) (time : Nat) : Except Exn (Option Json) := do
  let lease := item.get "lease"
  if !lease.isObj || (lease.get "released_at").truthy then return none
  else match ← parseTime (lease.get "expires_at") with
    | none => return some lease
    | some expiry => return if expiry > time * 1000000 then some lease else none

/-- `lease_is_expired`. -/
def leaseIsExpired [Scripting] (item : Json) (time : Nat) : Except Exn Bool := do
  let lease := item.get "lease"
  if !lease.isObj || (lease.get "released_at").truthy then return false
  else match ← parseTime (lease.get "expires_at") with
    | none => return false
    | some expiry => return expiry ≤ time * 1000000

/-- `int(text)` of a text of decimal digits with an optional sign, between white space. -/
def pyInt (text : String) : Option Int :=
  let digits := fun cs : List Char =>
    if cs ≠ [] ∧ cs.all Text.isDigit then some (Nat.ofDigitChars 10 cs 0) else none
  match Text.stripChars text.toList with
  | '-' :: cs => (digits cs).map fun n => -n
  | '+' :: cs => (digits cs).map fun n => n
  | cs => (digits cs).map fun n => n

/-- `int(ttl_minutes or configured_ttl or DEFAULT_LEASE_TTL_MINUTES)`, or the default. -/
def leaseMinutes (given : Option Int) (configuredTtl : Json) : Int :=
  match given.filter (· ≠ 0) with
  | some minutes => minutes
  | none =>
    if configuredTtl.truthy then
      match configuredTtl with
      | .int minutes => minutes
      | .bool _ => 1
      | .str text => (pyInt text).getD 120
      | _ => 120
    else 120

/-- `claim_lease`. -/
def claimLease (site : Site) (item : Json) (owner session : String) (given : Option Int) :
    Script Json := do
  let config ← orRaise id (loadConfig site)
  let configuredTtl ← orRaise id (configured config "runtime" "lease_ttl_minutes" (.int 120))
  let minutes := leaseMinutes given configuredTtl
  let acquired ← utcNow
  let expiry := (acquired : Int) + minutes * 60
  raiseIf (expiry < 0 ∨ (Calendar.horizon : Int) ≤ expiry)
    (Exit.raised (Exn.overflow "date value out of range"))
  return item.set "lease" (.obj [("owner", .str owner), ("session", .str session),
    ("acquired_at", .str (Calendar.isoformat acquired)),
    ("expires_at", .str (Calendar.isoformat expiry.toNat)), ("ttl_minutes", .int minutes)])

/-- `release_lease`. -/
def releaseLease (item : Json) : Script Json := do
  let lease := item.get "lease"
  if !lease.isObj then return item.set "lease" .null
  else if (lease.get "released_at").truthy then return item.set "lease" lease
  else
    let time ← isoNow
    return item.set "lease" (lease.set "released_at" (.str time))

end Parts

section Tests

def requireForceReason (force : Bool) (reason : Option String) : Except Exit Unit :=
  raiseIf (force ∧ Text.isBlank (reason.getD ""))
    (Exit.failed "--force requires --reason so the override is auditable")

def isHandoffTarget (item : Json) (owner : String) : Bool :=
  (item.get "workflow").isObj && item.getIn "workflow" "status" = .str "handoff_requested" &&
    item.getIn "workflow" "handoff_target" = .str owner

def assertNotDone (item : Json) : Except Exit Unit :=
  let itemId := (item.get "id").pyStr
  raiseIf (item.get "status" = .str "done") (Exit.failed s!"item '{itemId}' is already done")

/-- The tests on lease and owner that `assert_claimable` and `assert_can_start` share: whether a target
of a handoff passes them, and what the two messages end with. -/
def assertFree [Platform] [Scripting] (item : Json) (owner : String) (force targeted : Bool)
    (leaseHint ownerHint : String) : Script Unit := do
  let itemId := (item.get "id").pyStr
  let time ← utcNow
  let lease ← orRaise Exit.raised (activeLease item time)
  let (leaseOwner, leaseSession) := match lease with
    | some lease => ((lease.get "owner").pyStr, (lease.get "session").pyStr)
    | none => ("", "")
  raiseIf (lease.any (fun lease => lease.get "owner" ≠ .str owner) ∧ ¬ force ∧ ¬ targeted) (Exit.failed
    s!"item '{itemId}' has active lease owned by {leaseOwner} ({leaseSession}){leaseHint}")
  let existing := item.get "owner"
  if existing.truthy && existing ≠ .str owner && !force && lease.isNone then
    let later ← utcNow
    let expired ← orRaise Exit.raised (leaseIsExpired item later)
    raiseIf (¬ expired ∧ ¬ targeted) (Exit.failed
      s!"item '{itemId}' already has owner {existing.pyStr}{ownerHint}")

/-- `assert_claimable`. -/
def assertClaimable [Platform] [Scripting] (checklist item : Json) (owner : String) (force : Bool)
    (reason : Option String) : Script Unit := do
  let itemId := (item.get "id").pyStr
  orRaise id (requireForceReason force reason)
  orRaise id (assertNotDone item)
  raiseIf (item.get "status" = .str "blocked" ∧ ¬ force) (Exit.failed s!"item '{itemId}' is blocked")
  let unfinished := unfinishedDependencies checklist item
  let names := Text.join ", " unfinished
  raiseIf (unfinished ≠ [] ∧ ¬ force) (Exit.failed
    s!"item '{itemId}' has unfinished dependencies: {names}")
  assertFree item owner force (isHandoffTarget item owner) "" ""

/-- `assert_can_start`. -/
def assertCanStart [Platform] [Scripting] (checklist item : Json) (owner : String) (force : Bool)
    (reason : Option String) : Script Unit := do
  let itemId := (item.get "id").pyStr
  orRaise id (requireForceReason force reason)
  orRaise id (assertNotDone item)
  raiseIf (item.get "status" = .str "blocked" ∧ ¬ force) (Exit.failed
    s!"item '{itemId}' is blocked; use --force --reason only after an explicit unblock decision")
  let unfinished := unfinishedDependencies checklist item
  let names := Text.join ", " unfinished
  raiseIf (unfinished ≠ [] ∧ ¬ force) (Exit.failed
    s!"item '{itemId}' has unfinished dependencies: {names}")
  assertFree item owner force false "; use --force --reason to override"
    "; release it first or use --force --reason"

end Tests

section Arguments

/-- The arguments of `assign`, `accept`, `renew-lease` and of `activate_item.py`. -/
structure ClaimArguments where
  item : String
  owner : String
  session : String
  branch : Option String := none
  leaseMinutes : Option Int := none
  force : Bool := false
  reason : Option String := none
deriving DecidableEq, Repr

/-- The arguments of `decline`, `release`, `unblock` and `mark-done`; `text` is the summary, the decision
or the verification. -/
structure ActArguments where
  item : String
  actor : String
  text : Option String := none
  force : Bool := false
  reason : Option String := none
deriving DecidableEq, Repr

structure ReviewArguments where
  item : String
  reviewer : String
  decision : String
  summary : Option String := none
  artifact : Option String := none
deriving DecidableEq, Repr

/-- The arguments of `prepare_blocker_packet.py`. -/
structure BlockerArguments where
  item : String
  actor : Option String := none
  reason : Option String := none
  unblockOwner : String := "human"
deriving DecidableEq, Repr

/-- The arguments of `prepare_handoff_packet.py`. -/
structure HandoffArguments where
  item : String
  target : String
  actor : String := "operator"
deriving DecidableEq, Repr

/-- The arguments of `prepare_closeout_packet.py`. -/
structure CloseoutArguments where
  item : String
  reviewer : String := "TBD"
deriving DecidableEq, Repr

end Arguments

section Callbacks

variable [Platform] [Scripting]

/-- A text argument that counts as given. -/
def given (text : Option String) : Option String := text.filter (· ≠ "")

/-- A callback that changes the entry it requires. -/
def onItem (itemId : String) (change : Json → Json → Script Json) (checklist : Json) : Script Json := do
  let item ← orRaise id (requireItem checklist itemId)
  let changed ← change checklist item
  return putItem checklist itemId changed

omit [Platform] in
/-- `args.branch or branch_for(args.owner, args.item)`. -/
def assignBranch (site : Site) (arguments : ClaimArguments) : Except Exit String :=
  match given arguments.branch with
  | some branch => return branch
  | none => branchFor site arguments.owner arguments.item

omit [Platform] in
/-- The same with the branch of the workflow before the configured one. -/
def acceptBranch (site : Site) (arguments : ClaimArguments) (item : Json) : Except Exit Json :=
  let current := item.getIn "workflow" "branch"
  match given arguments.branch with
  | some branch => return .str branch
  | none => if current.truthy then return current
    else Json.str <$> branchFor site arguments.owner arguments.item

def assignItem (site : Site) (arguments : ClaimArguments) (checklist item : Json) : Script Json := do
  assertClaimable checklist item arguments.owner arguments.force arguments.reason
  let item ← ensureWorkflow item
  let item := ensureReview (ensureArtifacts item)
  let branch ← orRaise id (assignBranch site arguments)
  let planPath ← orRaise id (resolveItemPlan site item false)
  let located ← orRaise Exit.raised (itemHasPlanLocator item)
  let item := if located then item
    else item.set "artifacts" ((item.get "artifacts").setDefault "plan" (.str (rel site planPath)))
  let item := (item.set "owner" (.str arguments.owner)).set "selected_in_session" (.str arguments.session)
  let date ← today
  let item := (item.set "updated_at" (.str date)).setIn "workflow" "status" (.str "assigned")
  let date ← today
  let item := item.setIn "workflow" "updated_at" (.str date)
  let item := item.setIn "workflow" "branch" (.str branch)
  let item := item.setIn "artifacts" "branch" (.str branch)
  claimLease site item arguments.owner arguments.session arguments.leaseMinutes

def acceptItem (site : Site) (arguments : ClaimArguments) (checklist item : Json) : Script Json := do
  assertClaimable checklist item arguments.owner arguments.force arguments.reason
  let item ← ensureWorkflow item
  let branch ← orRaise id (acceptBranch site arguments item)
  let item := ensureArtifacts item
  let item := (item.set "status" (.str "doing")).set "owner" (.str arguments.owner)
  let item := item.set "selected_in_session" (.str arguments.session)
  let date ← today
  let item := (item.set "updated_at" (.str date)).setIn "workflow" "status" (.str "running")
  let item := item.eraseIn "workflow" "handoff_target"
  let date ← today
  let item := item.setIn "workflow" "updated_at" (.str date)
  let item := item.setIn "workflow" "branch" branch
  let item := item.setIn "artifacts" "branch" branch
  claimLease site item arguments.owner arguments.session arguments.leaseMinutes

/-- The callback of `activate_item.py`, which tests nothing again. -/
def startItem (site : Site) (arguments : ClaimArguments) (planPath : Path.Pure) (item : Json) :
    Script Json := do
  let item ← ensureWorkflow item
  let item := ensureReview (ensureArtifacts item)
  let item := item.set "artifacts" ((item.get "artifacts").setDefault "plan" (.str (rel site planPath)))
  let branch ← orRaise id (branchFor site arguments.owner arguments.item)
  let item := item.setIn "artifacts" "branch" (.str branch)
  let item := (item.set "status" (.str "doing")).set "owner" (.str arguments.owner)
  let item := item.set "selected_in_session" (.str arguments.session)
  let date ← today
  let item := (item.set "updated_at" (.str date)).setIn "workflow" "status" (.str "running")
  let date ← today
  let item := item.setIn "workflow" "updated_at" (.str date)
  let item := item.setIn "workflow" "branch" (.str branch)
  claimLease site item arguments.owner arguments.session arguments.leaseMinutes

def declineItem (arguments : ActArguments) (item : Json) : Script Json := do
  let item ← ensureWorkflow item
  let target := (item.getIn "workflow" "handoff_target").orElse (item.get "owner")
  raiseIf (target.truthy ∧ target ≠ .str arguments.actor ∧ ¬ arguments.force) (Exit.failed
    (s!"item '{arguments.item}' is targeted at {target.pyStr}; " ++
      "use --force --reason to decline as another actor"))
  orRaise id (requireForceReason arguments.force arguments.reason)
  let item := ((item.set "status" (.str "todo")).set "owner" .null).set "selected_in_session" .null
  let date ← today
  let item := (item.set "updated_at" (.str date)).setIn "workflow" "status" (.str "released")
  let item := item.setIn "workflow" "declined_by" (.str arguments.actor)
  let reason := ((given arguments.reason).or (given arguments.text)).getD "Declined."
  let item := item.setIn "workflow" "decline_reason" (.str reason)
  let date ← today
  releaseLease (item.setIn "workflow" "updated_at" (.str date))

def renewItem (site : Site) (arguments : ClaimArguments) (item : Json) : Script Json := do
  let time ← utcNow
  let lease ← orRaise Exit.raised (activeLease item time)
  let leaseOwner := match lease with
    | some lease => (lease.get "owner").pyStr
    | none => ""
  raiseIf (lease.any (fun lease => lease.get "owner" ≠ .str arguments.owner) ∧ ¬ arguments.force)
    (Exit.failed s!"item '{arguments.item}' has active lease owned by {leaseOwner}")
  let existing := item.get "owner"
  raiseIf (existing.truthy ∧ existing ≠ .str arguments.owner ∧ ¬ arguments.force)
    (Exit.failed s!"item '{arguments.item}' is owned by {existing.pyStr}")
  orRaise id (requireForceReason arguments.force arguments.reason)
  let item := (item.set "owner" (.str arguments.owner)).set "selected_in_session" (.str arguments.session)
  let date ← today
  claimLease site (item.set "updated_at" (.str date)) arguments.owner arguments.session
    arguments.leaseMinutes

def releaseItem (arguments : ActArguments) (item : Json) : Script Json := do
  orRaise id (requireForceReason arguments.force arguments.reason)
  let owner := item.get "owner"
  raiseIf (owner.truthy ∧ owner ≠ .str arguments.actor ∧ ¬ arguments.force) (Exit.failed
    (s!"item '{arguments.item}' is owned by {owner.pyStr}; " ++
      "use --force --reason to release as another actor"))
  let item ← ensureWorkflow item
  let item := if item.get "status" = .str "doing" then item.set "status" (.str "todo") else item
  let item := (item.set "owner" .null).set "selected_in_session" .null
  let date ← today
  let item := (item.set "updated_at" (.str date)).setIn "workflow" "status" (.str "released")
  let date ← today
  releaseLease (item.setIn "workflow" "updated_at" (.str date))

def unblockItem (arguments : ActArguments) (item : Json) : Script Json := do
  let item ← ensureWorkflow item
  let item := ensureReview item
  raiseIf (item.get "status" ≠ .str "blocked") (Exit.failed s!"item '{arguments.item}' is not blocked")
  let unblockOwner := item.getIn "workflow" "unblock_owner"
  raiseIf (unblockOwner.truthy ∧ unblockOwner ≠ .str arguments.actor ∧ ¬ arguments.force) (Exit.failed
    (s!"item '{arguments.item}' is assigned to unblock owner {unblockOwner.pyStr}; " ++
      "use --force --reason only for explicit override"))
  orRaise id (requireForceReason arguments.force arguments.reason)
  let item := ((item.set "status" (.str "todo")).set "blocked_reason" .null).set "blocked_by" (.arr [])
  let date ← today
  let item := (item.set "updated_at" (.str date)).setIn "workflow" "status" (.str "unblocked")
  let item := item.setIn "workflow" "unblocked_by" (.str arguments.actor)
  let item := item.setIn "workflow" "unblock_decision" (.str (arguments.text.getD ""))
  let date ← today
  let item := item.setIn "workflow" "updated_at" (.str date)
  releaseLease (item.setIn "review" "decision" .null)

/-- The decisions of a reviewer. -/
def approvalDecisions : List String := ["approved", "blocked", "changes_requested"]

omit [Platform] in
/-- The texts that a reviewer may give. -/
def putReviewTexts (arguments : ReviewArguments) (item : Json) : Json :=
  let item := match given arguments.summary with
    | some summary => item.setIn "review" "summary" (.str summary)
    | none => item
  match given arguments.artifact with
  | some artifact => item.setIn "review" "artifact" (.str artifact)
  | none => item

omit [Platform] in
/-- What a decision does to the status. -/
def putDecision (arguments : ReviewArguments) (item : Json) : Json :=
  if arguments.decision = "approved" then item.setIn "workflow" "status" (.str "review_approved")
  else if arguments.decision = "changes_requested" then
    item.setIn "workflow" "status" (.str "changes_requested")
  else
    let reason := (given arguments.summary).getD "Reviewer blocked this item."
    ((item.set "status" (.str "blocked")).set "blocked_reason" (.str reason)).setIn "workflow" "status"
      (.str "blocked")

def reviewItem (arguments : ReviewArguments) (item : Json) : Script Json := do
  let item ← ensureWorkflow (ensureReview item)
  let previous := item.getIn "workflow" "status"
  let item := item.setIn "review" "decision" (.str arguments.decision)
  let item := item.setIn "review" "reviewer" (.str arguments.reviewer)
  let item := item.setIn "review" "phase" previous
  let date ← today
  let item := item.setIn "review" "updated_at" (.str date)
  let item := putDecision arguments (putReviewTexts arguments item)
  let date ← today
  let item := item.setIn "workflow" "updated_at" (.str date)
  let date ← today
  return item.set "updated_at" (.str date)

def markItemDone (arguments : ActArguments) (item : Json) : Script Json := do
  orRaise id (requireForceReason arguments.force arguments.reason)
  let item ← ensureWorkflow (ensureReview item)
  raiseIf (¬ arguments.force ∧ item.getIn "review" "decision" ≠ .str "approved") (Exit.failed
    ("mark-done requires review.decision == approved; use --force --reason only for explicit human " ++
      "override"))
  raiseIf (¬ arguments.force ∧ item.getIn "review" "phase" ≠ .str "closeout_requested") (Exit.failed
    ("mark-done requires approved review of a closeout request; use --force --reason only for explicit " ++
      "human override"))
  let verification := given arguments.text
  raiseIf (¬ isNonEmptyString (item.get "verification") ∧ verification.isNone) (Exit.failed
    ("mark-done requires an existing non-empty verification or an explicit --verification TEXT written " ++
      "in the same mutation; no placeholder text is generated"))
  let item := match verification with
    | some text => item.set "verification" (.str text)
    | none => item
  let item := item.set "status" (.str "done")
  let date ← today
  let item := (item.set "updated_at" (.str date)).setIn "workflow" "status" (.str "closed")
  let date ← today
  let item ← releaseLease (item.setIn "workflow" "updated_at" (.str date))
  return (item.set "owner" .null).set "selected_in_session" .null

/-- `compact_reason`. -/
def compactReason (text : String) : String :=
  let stripped := (Text.splitlines text).map fun line => Text.strip (Text.stripOf ['-', ' '] line)
  match stripped.find? fun line => line ≠ "" && !Text.startsWith line "#" with
  | some line => Text.takePrefix line 240
  | none => "Blocked; see current/blocker.md."

def blockItem (site : Site) (arguments : BlockerArguments) (item : Json) : Script Json := do
  let item := ensureArtifacts (← ensureWorkflow item)
  let item := item.setIn "artifacts" "blocker_packet" (.str "docs/current/blocker-packet.md")
  let reason := (given arguments.reason).getD (compactReason (Text.rstrip site.blockerText))
  let item := (item.set "status" (.str "blocked")).set "blocked_reason" (.str reason)
  let item := (item.set "owner" .null).set "selected_in_session" .null
  let date ← today
  let item := (item.set "updated_at" (.str date)).setIn "workflow" "status" (.str "blocked")
  let item := item.setIn "workflow" "unblock_owner" (.str arguments.unblockOwner)
  let date ← today
  releaseLease (item.setIn "workflow" "updated_at" (.str date))

def handOffItem (arguments : HandoffArguments) (previousOwner : Json) (item : Json) : Script Json := do
  let item := ensureArtifacts (← ensureWorkflow item)
  let item := item.setIn "artifacts" "handoff_packet" (.str "docs/current/handoff-packet.md")
  let item := item.setIn "workflow" "status" (.str "handoff_requested")
  let item := item.setIn "workflow" "handoff_from" previousOwner
  let item := item.setIn "workflow" "handoff_target" (.str arguments.target)
  let date ← today
  let item ← releaseLease (item.setIn "workflow" "updated_at" (.str date))
  let item := ((item.set "status" (.str "todo")).set "owner" .null).set "selected_in_session" .null
  let date ← today
  return item.set "updated_at" (.str date)

def closeOutItem (arguments : CloseoutArguments) (item : Json) : Script Json := do
  let item := ensureReview (ensureArtifacts (← ensureWorkflow item))
  let item := item.setIn "artifacts" "closeout_packet" (.str "docs/current/closeout-packet.md")
  let item := item.setIn "workflow" "status" (.str "closeout_requested")
  let date ← today
  let item := item.setIn "workflow" "updated_at" (.str date)
  let item := item.setIn "review" "decision" .null
  let item := item.setIn "review" "reviewer" (.str arguments.reviewer)
  let date ← today
  return item.set "updated_at" (.str date)

end Callbacks

section Scripts

variable [Platform] [Scripting]

/-- A harness transition with its arguments. -/
inductive Transition where
  | assign (actor : String) (arguments : ClaimArguments)
  | accept (arguments : ClaimArguments)
  /-- `harnessctl start` -/
  | start (actor : Option String) (arguments : ClaimArguments)
  | decline (arguments : ActArguments)
  | renewLease (arguments : ClaimArguments)
  | release (arguments : ActArguments)
  | unblock (arguments : ActArguments)
  | reviewResult (arguments : ReviewArguments)
  | markDone (arguments : ActArguments)
  | blocker (arguments : BlockerArguments)
  | handoff (arguments : HandoffArguments)
  | closeout (arguments : CloseoutArguments)
deriving DecidableEq, Repr

def Transition.item : Transition → String
  | assign _ arguments | accept arguments | start _ arguments | renewLease arguments => arguments.item
  | decline arguments | release arguments | unblock arguments | markDone arguments => arguments.item
  | reviewResult arguments => arguments.item
  | blocker arguments => arguments.item
  | handoff arguments => arguments.item
  | closeout arguments => arguments.item

def Transition.force : Transition → Bool
  | assign _ arguments | accept arguments | start _ arguments | renewLease arguments => arguments.force
  | decline arguments | release arguments | unblock arguments | markDone arguments => arguments.force
  | _ => false

/-- `main` of `activate_item.py`: everything is tested on a copy that is read before the mutation. -/
def start (site : Site) (arguments : ClaimArguments) (files : Files) : Script Files := do
  let checklist ← orRaise id (loadChecklist files)
  let errors ← orRaise Exit.raised (validateChecklist checklist)
  raiseIf (errors ≠ []) (Exit.failed
    ("current checklist is invalid; refusing to start:\n" ++ listProblems (errors.take 8)))
  let problems ← orRaise Exit.raised (checklistRuntimeProblems site checklist)
  raiseIf (problems ≠ []) (Exit.failed
    ("current checklist has runtime authority problems; refusing to start:\n" ++ listProblems problems))
  let item ← orRaise id (requireItem checklist arguments.item)
  assertCanStart checklist item arguments.owner arguments.force arguments.reason
  let located ← orRaise Exit.raised (itemHasPlanLocator item)
  let planPath ← orRaise id (resolveItemPlan site item located)
  mutateChecklist site (onItem arguments.item fun _ => startItem site arguments planPath) files

/-- The beginning of the packet scripts: the item with a plan that can be read. -/
def readPacketItem (site : Site) (itemId : String) (files : Files) : Script Json := do
  let checklist ← orRaise id (loadChecklist files)
  let item ← orRaise id (requireItem checklist itemId)
  let item ← ensureWorkflow item
  let _ ← orRaise id (resolveItemPlan site item true)
  return item

/-- `do_mark_done`, which is content with an item that is done already. -/
def markDone (site : Site) (arguments : ActArguments) (files : Files) : Script Files := do
  let checklist ← orRaise id (loadChecklist files)
  let item ← orRaise id (requireItem checklist arguments.item)
  if item.get "status" = .str "done" then return files
  else mutateChecklist site (onItem arguments.item fun _ => markItemDone arguments) files

/-- `do_review_result`. -/
def reviewResult (site : Site) (arguments : ReviewArguments) (files : Files) : Script Files := do
  let names := Text.join ", " approvalDecisions
  raiseIf (arguments.decision ∉ approvalDecisions)
    (Exit.failed s!"review decision must be one of: {names}")
  mutateChecklist site (onItem arguments.item fun _ => reviewItem arguments) files

/-- What a transition does to the checklist files. -/
def perform (site : Site) (transition : Transition) (files : Files) : Script Files :=
  match transition with
  | .assign _ arguments => mutateChecklist site (onItem arguments.item (assignItem site arguments)) files
  | .accept arguments => mutateChecklist site (onItem arguments.item (acceptItem site arguments)) files
  | .start _ arguments => start site arguments files
  | .decline arguments =>
    mutateChecklist site (onItem arguments.item fun _ => declineItem arguments) files
  | .renewLease arguments =>
    mutateChecklist site (onItem arguments.item fun _ => renewItem site arguments) files
  | .release arguments =>
    mutateChecklist site (onItem arguments.item fun _ => releaseItem arguments) files
  | .unblock arguments =>
    mutateChecklist site (onItem arguments.item fun _ => unblockItem arguments) files
  | .reviewResult arguments => reviewResult site arguments files
  | .markDone arguments => markDone site arguments files
  | .blocker arguments => do
    let _ ← readPacketItem site arguments.item files
    mutateChecklist site (onItem arguments.item fun _ => blockItem site arguments) files
  | .handoff arguments => do
    let item ← readPacketItem site arguments.item files
    mutateChecklist site (onItem arguments.item fun _ => handOffItem arguments (item.get "owner")) files
  | .closeout arguments => do
    let _ ← readPacketItem site arguments.item files
    mutateChecklist site (onItem arguments.item fun _ => closeOutItem arguments) files

/-- The checklist files and the number of readings of the clock. -/
structure State where
  files : Files
  tick : Nat
deriving DecidableEq, Repr

/-- A call of a script, or time that passes. -/
inductive Label where
  | call (site : Site) (transition : Transition)
  | wait (readings : Nat)

/-- One step: a script that fails leaves the files alone. -/
def step (s : State) : Label → Option State
  | .call site transition =>
    if transition.force then none
    else match perform site transition s.files s.tick with
      | .ok (files, tick) => some ⟨files, tick⟩
      | .error _ => some s
  | .wait readings => some { s with tick := s.tick + readings }

/-- The transitions without `--force`, one after the other. -/
def transitions : Machine State Label := ⟨step⟩

end Scripts

end Coordinate.Checklist

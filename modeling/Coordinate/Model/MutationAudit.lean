import Coordinate.Model.Store

/-! # The failures that an audit reports

The event half of `audit_workspace` of `audit.py`: the mutation failures that no success resolved. The half
that compares the mirrors with the harness reads the same workspace and reports apart.
-/

namespace Coordinate.MutationAudit

/-- `EVENT_OPERATION`. -/
def EVENT_OPERATION : List (String × String) :=
  [("assignment.requested", "assign"), ("assignment.accepted", "accept"), ("handoff.requested", "handoff"),
    ("blocker.raised", "blocker"), ("blocker.resolved", "unblock"), ("closeout.requested", "closeout"),
    ("review.completed", "review"), ("task.done", "mark-done")]

def SUCCESSFUL_MUTATION_TYPES : List String :=
  ["assignment.requested", "assignment.accepted", "handoff.requested", "blocker.raised", "blocker.resolved",
    "closeout.requested", "review.completed", "task.done"]

def FAILED_MUTATION_TYPE : String := "harness.mutation_failed"

def isSuccess (event : EventDict) : Bool :=
  event.row.eventType ∈ SUCCESSFUL_MUTATION_TYPES

def isFailure (event : EventDict) : Bool :=
  event.row.eventType = FAILED_MUTATION_TYPE

/-- `_mutation_operation`. A payload that is no dictionary has no fields. -/
def mutationOperation (event : EventDict) : Option String :=
  let mutation := event.payload.get "mutation"
  if mutation.isObj && (mutation.get "operation").truthy then some (mutation.get "operation").pyStr
  else if (event.payload.get "operation").truthy then some (event.payload.get "operation").pyStr
  else EVENT_OPERATION.lookup event.row.eventType

/-- `payload.get("owner") or event.get("actor")`. -/
def mutationOwner (event : EventDict) : Json :=
  (event.payload.get "owner").orElse (.str event.row.actor)

/-- The comparisons of one success that follow the one of the times. -/
def matchesFailure (failure success : EventDict) : Bool :=
  if success.row.eventType = "task.done" then true
  else if (mutationOperation failure).any (· ≠ "") && mutationOperation success ≠ mutationOperation failure then
    false
  else
    let failureOwner := mutationOwner failure
    let successOwner := mutationOwner success
    !(failureOwner.truthy && successOwner.truthy && !failureOwner.pyEq successOwner)

/-- `_failure_was_later_resolved`, which orders the events by the second they were written in. -/
def failureWasLaterResolved (failure : EventDict) : List EventDict → Bool
  | [] => false
  | success :: rest =>
    if success.row.taskId ≠ failure.row.taskId then failureWasLaterResolved failure rest
    else if success.row.createdAt ≤ failure.row.createdAt then failureWasLaterResolved failure rest
    else if matchesFailure failure success then true
    else failureWasLaterResolved failure rest

/-- An entry of `mutation_failures`. -/
structure MutationFailure where
  eventId : String
  taskId : Option String
  payload : Json
  createdAt : Nat
deriving DecidableEq, Repr

def MutationFailure.ofEvent (event : EventDict) : MutationFailure :=
  ⟨event.row.id, event.row.taskId, event.payload, event.row.createdAt⟩

/-- The events of `list_events`, decoded, with their row identifiers. -/
def readEvents [Platform] (db : Db) (workspaceId : String) : Except Exn (List (Nat × EventDict)) :=
  (listEvents db workspaceId).mapM fun (rowid, row) => return (rowid, ← row.toDict)

/-- The `mutation_failures` of `audit_workspace`. -/
def mutationFailures [Platform] (db : Db) (workspaceId : String) : Except Exn (List MutationFailure) := do
  raiseIf ((getWorkspace db workspaceId).isNone) (Exn.value s!"unknown workspace: {workspaceId}")
  let events := (← readEvents db workspaceId).map Prod.snd
  let successfulMutations := events.filter isSuccess
  let mutationFailuresRaw := events.filter isFailure
  return (mutationFailuresRaw.filter fun event => !failureWasLaterResolved event successfulMutations).map
    MutationFailure.ofEvent

end Coordinate.MutationAudit

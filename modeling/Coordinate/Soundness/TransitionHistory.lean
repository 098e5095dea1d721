import Coordinate.Model.SampleCheckout
import Coordinate.Proofs.TaskTransitions

/-! # Transition events and harness mutations

In every sequence of transitions the success events of the ledger are, in order, the mutations that took
effect. A call that records a success has just had its effect. A call whose hint has an outcome already,
a failure as well as a success, answers with it and mutates nothing, whatever has happened since; so a
second blocker of an actor after an unblock reports a blocker that the task no longer has.
-/

namespace Coordinate.Transitions

/-- The calls that move a task. -/
inductive Call
  | accept (request : AcceptRequest)
  | handoff (request : HandoffRequest)
  | blocker (request : BlockerRequest)
  | unblock (request : UnblockRequest)
deriving DecidableEq, Repr

def Call.transition : Call → TaskTransition
  | .accept request => request.transition
  | .handoff request => request.transition
  | .blocker request => request.transition
  | .unblock request => request.transition

def Call.check : Call → Except Exn Unit
  | .blocker request => request.check
  | _ => pure ()

section Histories

/-- A harness operation on a task. -/
structure Effect where
  operation : String
  taskId : String
  actor : String
deriving DecidableEq, Repr

/-- The events that report a success, and the operations they report. -/
def successEvents : List (String × String) :=
  [("assignment.accepted", "accept"), ("handoff.requested", "handoff"),
    ("blocker.raised", "blocker"), ("blocker.resolved", "unblock")]

def reportOf (row : EventRow) : Option Effect := do
  let operation ← successEvents.lookup row.eventType
  let taskId ← row.taskId
  return ⟨operation, taskId, row.actor⟩

def effectOf (attempt : MutationRequest × Bool) : Option Effect :=
  if attempt.2 then some ⟨attempt.1.operation, attempt.1.taskId, attempt.1.actor⟩ else none

/-- The successes that the ledger reports. -/
def reports (s : Ledger) : List Effect :=
  (rowsOf s).filterMap reportOf

/-- The mutations that took effect. -/
def effects (s : Ledger) : List Effect :=
  s.mutations.filterMap effectOf

def Call.effect (call : Call) : Effect :=
  ⟨call.transition.operation, call.transition.taskId, call.transition.actor⟩

theorem Call.lookup_eventType (call : Call) :
    successEvents.lookup call.transition.eventType = some call.transition.operation := by
  cases call <;> rfl

variable [Platform] [Deployment] [Harness]

def Call.perform : Call → LedgerProgram TaskTransitionResult
  | .accept request => acceptTask request
  | .handoff request => handoffTask request
  | .blocker request => blockerTask request
  | .unblock request => unblockTask request

theorem Call.perform_eq (call : Call) :
    call.perform = transitionTask call.transition call.check := by
  cases call <;> rfl

/-- A call that runs from its start to its end, or what other programs record in between. -/
inductive Move
  | call (call : Call)
  | other (next : Ledger)

def history : Machine Ledger Move where
  step s
    | .call call => some (call.perform.run s).2
    | .other next =>
      if rowsOf s <+: rowsOf next ∧ next.mutations = s.mutations ∧
          ((rowsOf next).drop (rowsOf s).length).all (fun row =>
            (successEvents.lookup row.eventType).isNone) then some next
      else none

/-- No identifier is drawn twice. -/
def Identified (s : Ledger) : Move → Prop
  | .call _ => FreshId s
  | .other _ => True

/-- What the claim of an answer is about: a success that the call has recorded itself has just taken
effect, after everything else. -/
structure Faithful (call : Call) (s : Ledger) : Prop where
  answer : call.transition.Answer call.check s (call.perform.run s).1 (call.perform.run s).2
  created : ∀ result, (call.perform.run s).1 = .ok result → result.eventCreated = true →
    result.event.row.eventType = call.transition.eventType →
      effects (call.perform.run s).2 = effects s ++ [call.effect]

variable {s t : Ledger}

omit [Platform] [Deployment] [Harness] in
/-- The step lemma: a success is reported exactly when a mutation takes effect. -/
theorem Answer.agrees {call : Call} {outcome : Except Exn TaskTransitionResult}
    (answer : call.transition.Answer call.check s outcome t) (agrees : reports s = effects s) :
    reports t = effects t := by
  cases answer with
  | stored row outcome => exact agrees
  | refused e success failed reason => exact agrees
  | attempted adapter mutation event t success failed records rows mutations =>
    have reported : reportOf event.row = effectOf (call.transition.request adapter, mutation.success) := by
      rw [reportOf, records.type, records.task, records.actor]
      cases mutation.success with
      | true => rw [if_pos rfl, call.lookup_eventType]; rfl
      | false => rfl
    rw [reports, effects, rows, mutations, List.filterMap_append, List.filterMap_append]
    simp only [List.filterMap_cons, List.filterMap_nil, reported]
    exact congrArg (· ++ _) agrees

theorem faithful_of_fresh (call : Call) (fresh : FreshId s) : Faithful call s := by
  have answer := transitionTask_answer fresh call.transition call.check
  rw [← call.perform_eq] at answer
  refine ⟨answer, ?_⟩
  generalize (call.perform.run s).1 = outcome at answer ⊢
  generalize (call.perform.run s).2 = after at answer ⊢
  cases answer with
  | stored row stored =>
    intro result answered created
    cases decoded : row.toDict with
    | error e => rw [decoded] at answered; cases answered
    | ok event =>
      rw [decoded] at answered
      cases answered
      cases created
  | refused e success failed reason =>
    intro result answered
    cases answered
  | attempted adapter mutation event t success failed records rows mutations =>
    rintro result answered - type
    cases answered
    -- a failure is recorded as an event of its own type
    have took : mutation.success = true := by
      by_contra failed
      rw [records.type, if_neg failed] at type
      have known := call.lookup_eventType
      rw [← type] at known
      cases known
    rw [effects, effects, mutations, List.filterMap_append, took]
    rfl

theorem step_agrees {move : Move} (identified : Identified s move)
    (stepped : history.step s move = some t) (agrees : reports s = effects s) :
    reports t = effects t := by
  cases move with
  | call call =>
    cases stepped
    exact Answer.agrees (faithful_of_fresh call identified).answer agrees
  | other next =>
    simp only [history] at stepped
    split at stepped
    swap
    · cases stepped
    rename_i allowed
    cases stepped
    obtain ⟨⟨added, rows⟩, mutations, foreign⟩ := allowed
    rw [← rows, List.drop_left, List.all_eq_true] at foreign
    have silent : added.filterMap reportOf = [] := by
      refine List.filterMap_eq_nil_iff.mpr fun row member => ?_
      have unknown : successEvents.lookup row.eventType = none := by
        simpa using foreign row member
      rw [reportOf, unknown]
      rfl
    rw [reports, effects, mutations, ← rows, List.filterMap_append, silent, List.append_nil]
    exact agrees

end Histories

/-- **Transition history.** However calls and other programs follow each other, the reported successes
are the mutations that took effect, and a call reports a success of its own only right after its
effect; a call whose hint has an outcome answers with that and changes nothing. -/
theorem transitions_agree [Platform] [Deployment] [Harness] {s t : Ledger}
    (agrees : reports s = effects s) (run : history.Reaches Identified s t) :
    reports t = effects t ∧ ∀ call, FreshId t → Faithful call t :=
  ⟨run.invariant (P := fun t => reports t = effects t)
    (fun _ _ _ agrees identified stepped => step_agrees identified stepped agrees) agrees,
    fun call fresh => faithful_of_fresh call fresh⟩

namespace Sample

open Coordinate.Sample

local instance : Deployment := deployment fun _ => .obj []

/-- A harness whose mutations always succeed. -/
local instance : Harness := ⟨fun _ _ => .ok ⟨[], 0, "", ""⟩⟩

def start : Ledger := ⟨{ initialWork with store := configured }, [], []⟩

def block : Call := .blocker { workspaceId := "w", taskId := "t", actor := "a" }

def unblock : Call := .unblock { workspaceId := "w", taskId := "t", actor := "a", decision := "go" }

/-- Whether the newest effect on the task, among blockers and unblocks, is a blocker. -/
def isBlocked (taskId : String) (s : Ledger) : Bool :=
  match ((effects s).filter fun effect => effect.taskId = taskId &&
      (effect.operation = "blocker" || effect.operation = "unblock")).getLast? with
  | some effect => effect.operation = "blocker"
  | none => false

/-- The ledger after a blocker and an unblock. -/
def resolved : Ledger := (unblock.perform.run (block.perform.run start).2).2

theorem freshId_of_all {s : Ledger}
    (fresh : (rowsOf s).all (fun row => row.id ≠ Platform.uuid4 s.work.draws) = true) :
    FreshId s := by
  simpa [FreshId] using fresh

theorem resolved_reached : history.Reaches Identified start resolved := by
  refine .tail (.tail .refl (.call block) ?_ rfl) (.call unblock) ?_ rfl
  · exact freshId_of_all rfl
  · exact freshId_of_all (by decide +kernel)

theorem resolved_agrees :
    reports resolved = effects resolved ∧ ∀ call, FreshId resolved → Faithful call resolved :=
  transitions_agree rfl resolved_reached

/-- Another blocker reports success and leaves the task as it is. -/
def misreports : Bool :=
  match (block.perform.run resolved).1 with
  | .ok result => result.event.row.eventType = "blocker.raised" &&
      !isBlocked "t" (block.perform.run resolved).2
  | .error _ => false

theorem blocker_misreports : ¬ ∀ s t, reports s = effects s → history.Reaches Identified s t →
    ∀ request result, ((Call.blocker request).perform.run t).1 = .ok result →
      result.event.row.eventType = "blocker.raised" →
      isBlocked request.taskId ((Call.blocker request).perform.run t).2 = true := by
  intro blocked
  have wrong : misreports = true := by decide +kernel
  unfold misreports at wrong
  split at wrong
  · rename_i result answered
    simp only [Bool.and_eq_true, decide_eq_true_eq, Bool.not_eq_true'] at wrong
    obtain ⟨type, unblocked⟩ := wrong
    have still : isBlocked "t" (block.perform.run resolved).2 = true :=
      blocked start resolved rfl resolved_reached _ result answered type
    rw [unblocked] at still
    cases still
  · cases wrong

end Sample

end Coordinate.Transitions

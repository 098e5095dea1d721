import Coordinate.Proofs.Terminals
import Coordinate.Soundness.ReceiptChain

/-! # Terminal authorities over all interleavings

Consumptions of receipts, repairs and direct completions interleave statement by statement, with
preparations, claims, applications and whatever else other programs record. A consumption and a repair
look for an earlier completion of the task in a statement of its own, and a direct completion does not
look at all. Where no other completion comes before the append unseen, every task keeps one authority.
-/

namespace Coordinate.Terminals

/-- The operations that record completions, and the rest of the receipt protocol. -/
inductive Call
  | receipt (call : Completion.Call)
  | markDone (request : MarkDoneRequest)
  | record (request : MarkDoneRecordRequest)

inductive Response
  | receipt (response : Completion.Response)
  | markDone (result : MarkDoneTaskResult)
  | record (result : MarkDoneRecordResult)
deriving DecidableEq

/-- A change by another program: it neither completes a task nor authorizes a completion. -/
def change (next s : Ledger) : Option Ledger :=
  if rowsOf s <+: rowsOf next ∧
      ((rowsOf next).drop (rowsOf s).length).all (fun row => !isTasked row.eventType) ∧
      next.readings = s.readings then some next
  else none

section Runs

variable [Platform] [Deployment] [Harness] {s : Ledger}

def Call.perform : Call → LedgerProgram Response
  | .receipt call => Response.receipt <$> call.perform
  | .markDone request => Response.markDone <$> markDoneTask request
  | .record request => Response.record <$> markDoneRecord request

/-- All interleavings of the operations. -/
def operations : Machine (Pool Call Statement Ledger Exn Response) (Pool.Move Call Ledger) :=
  Pool.machine Call.perform change

omit [Harness] in
theorem receipt_sound (call : Completion.Call) :
    call.perform.Sound Governed Evolves Unraced (fun _ _ => True) s := by
  cases call with
  | prepare request => exact Program.sound_map (harmless_prepare request s _ fun _ _ _ _ => trivial)
  | claim claim => exact Program.sound_map (harmless_claim claim s _ fun _ _ _ _ => trivial)
  | apply application =>
    exact Program.sound_map (harmless_apply application s _ fun _ _ _ _ => trivial)
  | consume consumption => exact Program.sound_map (consume_sound consumption)

theorem perform_sound (call : Call) :
    call.perform.Sound Governed Evolves Unraced (fun _ _ => True) s := by
  cases call with
  | receipt call => exact Program.sound_map (receipt_sound call)
  | markDone request => exact Program.sound_map (markDone_sound request)
  | record request => exact Program.sound_map (record_sound request)

omit [Platform] [Deployment] [Harness] in
theorem Governed.change (governed : Governed s) {next t : Ledger}
    (changed : Terminals.change next s = some t) : Governed t ∧ Evolves s t := by
  unfold Terminals.change at changed
  split at changed
  swap
  · cases changed
  rename_i allowed
  cases changed
  obtain ⟨⟨added, rows⟩, foreign, readings⟩ := allowed
  rw [← rows, List.drop_left, List.all_eq_true] at foreign
  have untasked : ∀ row ∈ added, isTasked row.eventType = false := fun row member => by
    simpa using foreign row member
  have old : ∀ row ∈ rowsOf next, isTasked row.eventType = true → row ∈ rowsOf s := by
    intro row member tasked
    rw [← rows, List.mem_append] at member
    obtain old | new := member
    · exact old
    · rw [untasked row new] at tasked
      cases tasked
  refine ⟨⟨fun row member tasked => governed.named row (old row member tasked) tasked, ?_⟩,
    ⟨added, rows⟩, readings ▸ List.prefix_rfl⟩
  intro workspaceId taskId row member other otherMember completes otherCompletes
  exact governed.one _ _ row (old row member (by simp [isTasked, completes.type])) other
    (old other otherMember (by simp [isTasked, otherCompletes.type])) completes otherCompletes

end Runs

/-- **Terminal authority.** In every interleaving in which no append of a completion is raced, all
completions of a task stem from one authority. -/
theorem one_authority [Platform] [Deployment] [Harness] {s : Ledger} (governed : Governed s)
    {pool : Pool Call Statement Ledger Exn Response}
    (run : operations.Reaches (Pool.Meets fun _ s tag => Unraced s tag) (Pool.initial s) pool) :
    OneAuthority pool.shared := by
  have steady := Pool.Steady.reaches Evolves.refl Evolves.trans (fun call s _ => perform_sound call)
    (fun _ _ _ governed changed => governed.change changed) governed run
  exact steady.1.one

namespace Sample

open Coordinate.Sample Completion.Sample

local instance : Deployment := deployment fun _ => checklistOf item

/-- A harness whose mutations always succeed. -/
local instance : Harness := ⟨fun _ _ => .ok ⟨[], 0, "", ""⟩⟩

theorem start_governed : Governed start :=
  ⟨nofun, nofun⟩

/-- Whether an append is not raced. -/
def unraced (s : Ledger) : Statement → Bool
  | .terminal completion => (rowsOf s).any (·.idempotencyKey = completion.key) ||
      ((rowsOf s).drop (completion.scanned.getD 0)).all fun row =>
        row.eventType ≠ "task.done" || row.workspaceId ≠ completion.workspaceId ||
          row.taskId ≠ completion.taskId || authorityOf row = completion.authority
  | _ => true

theorem unraced_sound {s : Ledger} {tag : Statement} (holds : unraced s tag = true) :
    Unraced s tag := by
  cases tag with
  | terminal completion =>
    intro free workspaceId taskId workspace task row member completes
    simp only [unraced, Bool.or_eq_true, List.any_eq_true, List.all_eq_true,
      decide_eq_true_eq] at holds
    obtain ⟨taken, takenMember, key⟩ | apart := holds
    · exact absurd key (free taken takenMember)
    · simpa [workspace, task, completes.type, completes.workspace, completes.task]
        using apart row member
  | _ => trivial

def repairOf (actor : String) : Call :=
  .record { workspaceId := "w", taskId := "t", actor, repairReason := some "drift" }

def completionOf (actor : String) : Call :=
  .markDone { workspaceId := "w", taskId := "t", actor, verification := some "tested" }

/-- Two repairs by different actors, one after the other. -/
def repairs : List (Pool.Move Call Ledger) :=
  .start (repairOf "a") :: List.replicate 3 (.perform 0) ++
    .start (repairOf "b") :: List.replicate 2 (.perform 1)

/-- Two direct completions by different actors, one after the other. -/
def completions : List (Pool.Move Call Ledger) :=
  .start (completionOf "a") :: List.replicate 7 (.perform 0) ++
    .start (completionOf "b") :: List.replicate 7 (.perform 1)

/-- The actors of the recorded completions, once every call has returned. -/
def completedBy (actors : List String) (pool : Pool Call Statement Ledger Exn Response) : Bool :=
  (pool.parties.all fun party => match party.2 with
    | .done _ => true
    | _ => false) &&
  (rowsOf pool.shared).map (fun row => (row.eventType, row.workspaceId, row.taskId, row.receipt,
    row.actor)) = actors.map (("task.done", some "w", some "t", none, ·))

/-- The second repair finds the first. -/
theorem repairs_governed : ∃ pool, completedBy ["a"] pool = true ∧ OneAuthority pool.shared := by
  have ran : ((operations.runIf (Pool.passes fun _ s tag => unraced s tag)
      (Pool.initial start) repairs).any (completedBy ["a"])) = true := by
    decide +kernel
  obtain ⟨pool, run, done⟩ := Machine.exists_reaches
    (Pool.meets_of_passes fun _ _ _ => unraced_sound) ran
  exact ⟨pool, done, one_authority start_governed run⟩

/-- The second direct completion does not. -/
theorem completions_ungoverned : ¬ ∀ s pool, Governed s →
    operations.Reaches Machine.anyStep (Pool.initial s) pool → OneAuthority pool.shared := by
  intro governed
  have ran : ((operations.runIf (fun _ _ => true) (Pool.initial start) completions).any
      (completedBy ["a", "b"])) = true := by
    decide +kernel
  have any : ∀ (pool : Pool Call Statement Ledger Exn Response) (move : Pool.Move Call Ledger),
      true = true → Machine.anyStep pool move := fun _ _ _ => trivial
  obtain ⟨pool, run, done⟩ := Machine.exists_reaches any ran
  have one := governed start pool start_governed run
  simp only [completedBy, List.map_cons, List.map_nil, Bool.and_eq_true, decide_eq_true_eq] at done
  obtain ⟨-, rows⟩ := done
  obtain ⟨first, second, rest, actors⟩ : ∃ first second rest,
      rowsOf pool.shared = first :: second :: rest := by
    match found : rowsOf pool.shared with
    | [] => rw [found] at rows; simp at rows
    | [_] => rw [found] at rows; simp at rows
    | first :: second :: rest => exact ⟨first, second, rest, rfl⟩
  simp only [actors, List.map_cons, List.cons.injEq, Prod.mk.injEq] at rows
  obtain ⟨⟨type, workspace, task, unmarked, actor⟩, ⟨type', workspace', task', unmarked', actor'⟩,
    -⟩ := rows
  have same := one "w" "t" first (by simp [actors]) second (by simp [actors])
    ⟨type, workspace, task⟩ ⟨type', workspace', task'⟩
  rw [authorityOf, authorityOf, unmarked, unmarked', actor, actor'] at same
  exact absurd same (by decide)

end Sample

end Coordinate.Terminals

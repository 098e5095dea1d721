import Coordinate.Library.Machine

/-! # The checklist lock

`ChecklistLock` of `checklist_io.py`, as processes over one lock file. Every file-system operation is
one step: `O_CREAT | O_EXCL`, the write of the owner, the read of the owner, the test whether it is
alive, the removal of a stale file and the removal at the release. A process may stop at any point,
and a process that has stopped never runs again.
-/

namespace Coordinate.ChecklistLock

/-- A process by its process id. -/
abbrev Pid := Nat

/-- The file at `lock_path`: the process that created it, and the `owner_pid` of its content, which
is unreadable until the creator has written it. -/
structure LockFile where
  inode : Nat
  creator : Pid
  ownerPid : Option Pid
deriving DecidableEq, Repr

/-- Where a process stands in `acquire` and `release`. -/
inductive Phase
  | idle
  /-- at the head of the loop, before `_try_create` -/
  | trying
  /-- `_try_create` holds the descriptor of the file that it has created -/
  | writing (inode : Nat)
  /-- writing has raised, and `_try_create` removes the file before it raises again -/
  | discarding
  /-- the file existed, before `_read_owner_pid` -/
  | reading
  /-- before `_process_alive` -/
  | testing (ownerPid : Pid)
  /-- the owner was dead, before the removal of the stale file -/
  | breaking
  /-- before the deadline test and the sleep -/
  | waiting
  /-- `acquire` has returned, `release` has not -/
  | holding
deriving DecidableEq, Repr

structure State where
  file : Option LockFile
  nextInode : Nat
  phase : Pid → Phase
  alive : Pid → Bool

def State.moveTo (s : State) (pid : Pid) (phase : Phase) : State :=
  { s with phase := Function.update s.phase pid phase }

inductive Action
  /-- a call of `acquire` -/
  | acquire
  | tryCreate
  | write
  /-- writing or syncing the content fails; what was written may have reached the file -/
  | writeFails (reached : Bool)
  | discard
  | readOwnerPid
  | testAlive
  | unlink
  /-- the removal of a stale file fails, which `acquire` ignores -/
  | unlinkFails
  | sleep
  | timeOut
  | release
  | stop
deriving DecidableEq, Repr

/-- The content that `write` puts into the file behind a descriptor, wherever that file is now. -/
def writeContent (file : Option LockFile) (inode : Nat) (pid : Pid) : Option LockFile :=
  file.map fun found => if found.inode = inode then { found with ownerPid := some pid } else found

/-- One step of a live process. -/
def actStep (s : State) (pid : Pid) : Action → Option State
  | .acquire => if s.phase pid = .idle then some (s.moveTo pid .trying) else none
  | .tryCreate =>
    if s.phase pid = .trying then
      match s.file with
      | none => some { s.moveTo pid (.writing s.nextInode) with
          file := some ⟨s.nextInode, pid, none⟩, nextInode := s.nextInode + 1 }
      | some _ => some (s.moveTo pid .reading)
    else none
  | .write =>
    match s.phase pid with
    | .writing inode =>
      some { s.moveTo pid .holding with file := writeContent s.file inode pid }
    | _ => none
  | .writeFails reached =>
    match s.phase pid with
    | .writing inode => some { s.moveTo pid .discarding with
        file := if reached then writeContent s.file inode pid else s.file }
    | _ => none
  | .discard =>
    if s.phase pid = .discarding then some { s.moveTo pid .idle with file := none } else none
  | .readOwnerPid =>
    if s.phase pid = .reading then
      match s.file.bind LockFile.ownerPid with
      | none => some (s.moveTo pid .waiting)
      | some ownerPid => some (s.moveTo pid (.testing ownerPid))
    else none
  | .testAlive =>
    match s.phase pid with
    | .testing ownerPid => some (s.moveTo pid (if s.alive ownerPid then .waiting else .breaking))
    | _ => none
  | .unlink =>
    if s.phase pid = .breaking then some { s.moveTo pid .trying with file := none } else none
  | .unlinkFails => if s.phase pid = .breaking then some (s.moveTo pid .trying) else none
  | .sleep => if s.phase pid = .waiting then some (s.moveTo pid .trying) else none
  | .timeOut => if s.phase pid = .waiting then some (s.moveTo pid .idle) else none
  | .release =>
    if s.phase pid = .holding then some { s.moveTo pid .idle with file := none } else none
  | .stop => some { s with alive := Function.update s.alive pid false }

/-- The processes, one step of one of them at a time. -/
def processes : Machine State (Pid × Action) where
  step s label := if s.alive label.1 then actStep s label.1 label.2 else none

/-- No process has called `acquire`, and a lock file is at most one that a dead process has left. -/
structure Initial (s : State) : Prop where
  file : ∀ file, s.file = some file → s.alive file.creator = false
  phase : ∀ pid, s.phase pid = .idle

/-- A live process is between a successful `acquire` and its `release`. -/
def Holds (s : State) (pid : Pid) : Prop := s.alive pid = true ∧ s.phase pid = .holding

/-- At most one live process holds the lock, and a release would remove its own file. -/
structure Exclusive (s : State) : Prop where
  one : ∀ p q, Holds s p → Holds s q → p = q
  own : ∀ p file, Holds s p → s.file = some file → file.creator = p

/-- The removal of a stale file finds no file of a live process. -/
def Careful (s : State) (label : Pid × Action) : Prop :=
  label.2 = .unlink → ∀ file, s.file = some file → s.alive file.creator = false

end Coordinate.ChecklistLock

import Coordinate.Model.ChecklistLock

/-! # Mutual exclusion of the checklist lock

As long as the removal of a stale file never meets a file of a live process, the live processes that
answer for a file are exactly the creator of the file in place, so there is at most one. The removal
is a step of its own after the test, and nothing makes it meet the file that was tested: two waiters
that have seen the same dead owner can both remove a file, the second one that of the first.
-/

namespace Coordinate.ChecklistLock

variable {s t u : State} {pid : Pid}

section Invariant

/-- The phases in which a process answers for a file that it has created. -/
def Phase.owns : Phase → Bool
  | .writing _ | .discarding | .holding => true
  | _ => false

/-- The creator of the file in place. -/
def State.creator (s : State) : Option Pid := s.file.map LockFile.creator

/-- A live process answers for a file if and only if it has created the file in place. -/
def Owned (s : State) : Prop :=
  ∀ pid, s.alive pid = true → ((s.phase pid).owns = true ↔ s.creator = some pid)

theorem Owned.exclusive (owned : Owned s) : Exclusive s := by
  have creator : ∀ p, Holds s p → s.creator = some p := fun p holds =>
    (owned p holds.1).mp (by rw [holds.2]; rfl)
  refine ⟨fun p q first second => ?_, fun p file holds placed => ?_⟩
  · exact Option.some.inj ((creator p first).symm.trans (creator q second))
  · have placedBy := creator p holds
    rw [State.creator, placed] at placedBy
    exact Option.some.inj placedBy

theorem Initial.owned (initial : Initial s) : Owned s := by
  intro pid alive
  rw [initial.phase, State.creator]
  refine ⟨nofun, fun placed => ?_⟩
  obtain ⟨file, found, rfl⟩ := Option.map_eq_some_iff.mp placed
  rw [initial.file file found] at alive
  cases alive

end Invariant

section Moves

/-- A move between phases without a file, which leaves the file in place. -/
theorem Owned.moveTo (owned : Owned s) {phase : Phase} (before : (s.phase pid).owns = false)
    (free : phase.owns = false) : Owned (s.moveTo pid phase) := by
  intro p alive
  rw [show (s.moveTo pid phase).creator = s.creator from rfl, ← owned p alive]
  by_cases same : p = pid
  · subst same
    simp [State.moveTo, before, free]
  · simp [State.moveTo, same]

/-- A move between phases with a file, which leaves its creator. -/
theorem Owned.keep (owned : Owned s) {phase : Phase} {file : Option LockFile}
    (before : (s.phase pid).owns = true) (still : phase.owns = true)
    (kept : file.map LockFile.creator = s.creator) : Owned { s.moveTo pid phase with file } := by
  intro p alive
  rw [show State.creator { s.moveTo pid phase with file } = s.creator from kept, ← owned p alive]
  by_cases same : p = pid
  · subst same
    simp [State.moveTo, before, still]
  · simp [State.moveTo, same]

/-- A removal of the file, when nobody else answers for one. -/
theorem remove_owned {phase : Phase} (free : phase.owns = false)
    (alone : ∀ p, p ≠ pid → s.alive p = true → (s.phase p).owns = false) :
    Owned { s.moveTo pid phase with file := none } := by
  intro p alive
  rw [show State.creator { s.moveTo pid phase with file := none } = none from rfl]
  by_cases same : p = pid
  · subst same
    simp [State.moveTo, free]
  · simp [State.moveTo, same, alone p same alive]

/-- Next to a live process that answers for the file nobody else does. -/
theorem Owned.alone (owned : Owned s) (alive : s.alive pid = true)
    (owns : (s.phase pid).owns = true) (p : Pid) (different : p ≠ pid)
    (otherAlive : s.alive p = true) : (s.phase p).owns = false := by
  by_contra otherOwns
  rw [Bool.not_eq_false, owned p otherAlive, (owned pid alive).mp owns] at otherOwns
  exact different (Option.some.inj otherOwns).symm

/-- A file that is written to keeps its creator. -/
theorem writeContent_creator (file : Option LockFile) (inode : Nat) :
    (writeContent file inode pid).map LockFile.creator = file.map LockFile.creator := by
  cases file with
  | none => rfl
  | some found =>
    by_cases same : found.inode = inode <;> simp [writeContent, same]

end Moves

/-- The step lemma: careful steps keep the owner of the file in place. -/
theorem Owned.step (owned : Owned s) {label : Pid × Action} (careful : Careful s label)
    (stepped : processes.step s label = some t) : Owned t := by
  obtain ⟨pid, action⟩ := label
  simp only [processes] at stepped
  split at stepped
  swap
  · cases stepped
  rename_i alive
  cases action with
  | acquire =>
    simp only [actStep, Option.ite_none_right_eq_some, Option.some.injEq] at stepped
    obtain ⟨idle, rfl⟩ := stepped
    exact owned.moveTo (by rw [idle]; rfl) rfl
  | tryCreate =>
    simp only [actStep] at stepped
    split at stepped
    swap
    · cases stepped
    rename_i trying
    split at stepped
    · -- without a file no live process answers for one
      rename_i absent
      cases stepped
      intro p otherAlive
      by_cases same : p = pid
      · subst same
        simp [State.moveTo, State.creator, Phase.owns]
      · have before := owned p otherAlive
        simp only [State.creator, absent, Option.map_none, reduceCtorEq, iff_false,
          Bool.not_eq_true] at before
        simp [State.moveTo, State.creator, same, before, Ne.symm same]
    · cases stepped
      exact owned.moveTo (by rw [trying]; rfl) rfl
  | write =>
    simp only [actStep] at stepped
    split at stepped
    · rename_i inode writing
      cases stepped
      exact owned.keep (by rw [writing]; rfl) rfl (writeContent_creator s.file inode)
    · cases stepped
  | writeFails reached =>
    simp only [actStep] at stepped
    split at stepped
    · rename_i inode writing
      cases stepped
      refine owned.keep (by rw [writing]; rfl) rfl ?_
      cases reached with
      | true => exact writeContent_creator s.file inode
      | false => rfl
    · cases stepped
  | discard =>
    simp only [actStep, Option.ite_none_right_eq_some, Option.some.injEq] at stepped
    obtain ⟨discarding, rfl⟩ := stepped
    exact remove_owned rfl (owned.alone alive (by rw [discarding]; rfl))
  | readOwnerPid =>
    simp only [actStep] at stepped
    split at stepped
    swap
    · cases stepped
    rename_i reading
    split at stepped
    · cases stepped
      exact owned.moveTo (by rw [reading]; rfl) rfl
    · cases stepped
      exact owned.moveTo (by rw [reading]; rfl) rfl
  | testAlive =>
    simp only [actStep] at stepped
    split at stepped
    · rename_i ownerPid testing
      cases stepped
      refine owned.moveTo (by rw [testing]; rfl) ?_
      split <;> rfl
    · cases stepped
  | unlink =>
    simp only [actStep, Option.ite_none_right_eq_some, Option.some.injEq] at stepped
    obtain ⟨_, rfl⟩ := stepped
    refine remove_owned rfl fun p _ otherAlive => ?_
    -- a live owner would be the creator of the file that is removed
    by_contra owns
    rw [Bool.not_eq_false, owned p otherAlive] at owns
    obtain ⟨file, placed, rfl⟩ := Option.map_eq_some_iff.mp owns
    rw [careful rfl file placed] at otherAlive
    cases otherAlive
  | unlinkFails =>
    simp only [actStep, Option.ite_none_right_eq_some, Option.some.injEq] at stepped
    obtain ⟨breaking, rfl⟩ := stepped
    exact owned.moveTo (by rw [breaking]; rfl) rfl
  | sleep =>
    simp only [actStep, Option.ite_none_right_eq_some, Option.some.injEq] at stepped
    obtain ⟨waiting, rfl⟩ := stepped
    exact owned.moveTo (by rw [waiting]; rfl) rfl
  | timeOut =>
    simp only [actStep, Option.ite_none_right_eq_some, Option.some.injEq] at stepped
    obtain ⟨waiting, rfl⟩ := stepped
    exact owned.moveTo (by rw [waiting]; rfl) rfl
  | release =>
    simp only [actStep, Option.ite_none_right_eq_some, Option.some.injEq] at stepped
    obtain ⟨holding, rfl⟩ := stepped
    exact remove_owned rfl (owned.alone alive (by rw [holding]; rfl))
  | stop =>
    simp only [actStep, Option.some.injEq] at stepped
    subst stepped
    intro p otherAlive
    by_cases same : p = pid
    · subst same
      simp at otherAlive
    · exact owned p (by simpa [same] using otherAlive)

/-- The run lemma. -/
theorem Owned.reaches (owned : Owned s) (run : processes.Reaches Careful s t) : Owned t :=
  run.invariant (fun _ _ _ owned careful stepped => owned.step careful stepped) owned

section Careless

/-- A run after which two processes hold the lock. -/
theorem not_exclusive_of_run {p q : Pid} (different : p ≠ q) (labels : List (Pid × Action))
    (ran : ∃ v, processes.run s labels = some v ∧ Holds v p ∧ Holds v q) :
    ∃ v, processes.Reaches Machine.anyStep s v ∧ ¬ Exclusive v := by
  obtain ⟨v, ran, first, second⟩ := ran
  exact ⟨v, Machine.reaches_of_run ran, fun exclusive => different (exclusive.one p q first second)⟩

/-- Once the file of a live process is removed, the remover can take the lock beside it. -/
theorem two_holders_of_removed {p q : Pid} (different : p ≠ q) (absent : s.file = none)
    (trying : s.phase p = .trying) (remover : s.alive p = true) (creator : s.alive q = true)
    (owns : (s.phase q).owns = true) :
    ∃ v, processes.Reaches Machine.anyStep s v ∧ ¬ Exclusive v := by
  cases phase : s.phase q with
  | holding =>
    refine not_exclusive_of_run different [(p, .tryCreate), (p, .write)] ?_
    simp [Machine.run, processes, actStep, State.moveTo, Holds, remover, creator, trying, absent,
      phase, different.symm]
  | writing inode =>
    refine not_exclusive_of_run different [(p, .tryCreate), (p, .write), (q, .write)] ?_
    simp [Machine.run, processes, actStep, State.moveTo, Holds, remover, creator, trying, absent,
      phase, different.symm, different]
  | discarding =>
    -- the creator then removes the file of the remover, and takes the lock again
    refine not_exclusive_of_run different [(p, .tryCreate), (p, .write), (q, .discard),
      (q, .acquire), (q, .tryCreate), (q, .write)] ?_
    simp [Machine.run, processes, actStep, State.moveTo, Holds, remover, creator, trying, absent,
      phase, different.symm, different]
  | _ => simp [phase, Phase.owns] at owns

/-- A removal that is not careful can end in two holders. -/
theorem Owned.breaks (owned : Owned s) {label : Pid × Action}
    (stepped : processes.step s label = some t) (careless : ¬ Careful s label) :
    ∃ v, processes.Reaches Machine.anyStep t v ∧ ¬ Exclusive v := by
  obtain ⟨pid, action⟩ := label
  simp only [Careful, not_forall, Bool.not_eq_false] at careless
  obtain ⟨rfl, file, placed, creator⟩ := careless
  simp only [processes] at stepped
  split at stepped
  swap
  · cases stepped
  rename_i alive
  simp only [actStep, Option.ite_none_right_eq_some, Option.some.injEq] at stepped
  obtain ⟨breaking, rfl⟩ := stepped
  have owns : (s.phase file.creator).owns = true :=
    (owned file.creator creator).mpr (by rw [State.creator, placed]; rfl)
  have different : pid ≠ file.creator := by
    rintro rfl
    rw [breaking] at owns
    cases owns
  refine two_holders_of_removed different rfl ?_ alive creator ?_
  · simp [State.moveTo]
  · simpa [State.moveTo, different.symm] using owns

end Careless

/-- **Mutual exclusion.** In every run whose stale removals never meet the file of a live process, at
most one live process holds the lock and a release removes the holder's own file; and a removal that
does meet one can end in two holders. -/
theorem lock_exclusive (initial : Initial s) (run : processes.Reaches Careful s t) :
    Exclusive t ∧ ∀ label u, processes.step t label = some u → ¬ Careful t label →
      ∃ v, processes.Reaches Machine.anyStep u v ∧ ¬ Exclusive v :=
  have owned := initial.owned.reaches run
  ⟨owned.exclusive, fun _ _ stepped careless => owned.breaks stepped careless⟩

namespace Sample

/-- Three processes and no lock file. -/
def start : State := ⟨none, 0, fun _ => .idle, fun _ => true⟩

theorem start_initial : Initial start := ⟨nofun, fun _ => rfl⟩

/-- Process 0 stops with the lock and process 1 takes it over: one careful removal. -/
theorem takeover_exclusive : ∃ t, Holds t 1 ∧ Exclusive t := by
  have removal : ∀ s : State, s.file = some ⟨0, 0, some 0⟩ → s.alive 0 = false →
      Careful s (1, .unlink) := by
    rintro s placed dead - file again
    rw [placed] at again
    cases again
    exact dead
  have taken : processes.Reaches Careful start _ :=
    ((((((((((Machine.Reaches.refl.tail (0, .acquire) nofun rfl).tail (0, .tryCreate) nofun rfl).tail
      (0, .write) nofun rfl).tail (0, .stop) nofun rfl).tail (1, .acquire) nofun rfl).tail
      (1, .tryCreate) nofun rfl).tail (1, .readOwnerPid) nofun rfl).tail
      (1, .testAlive) nofun rfl).tail (1, .unlink) (removal _ rfl rfl) rfl).tail
      (1, .tryCreate) nofun rfl).tail (1, .write) nofun rfl
  exact ⟨_, ⟨rfl, rfl⟩, (lock_exclusive start_initial taken).1⟩

/-- Processes 1 and 2 have both tested the dead owner 0; process 2 removes the file of process 1. -/
def race : List (Pid × Action) :=
  [(0, .acquire), (0, .tryCreate), (0, .write), (0, .stop),
    (1, .acquire), (1, .tryCreate), (1, .readOwnerPid), (1, .testAlive),
    (2, .acquire), (2, .tryCreate), (2, .readOwnerPid), (2, .testAlive),
    (1, .unlink), (1, .tryCreate), (1, .write), (2, .unlink), (2, .tryCreate), (2, .write)]

theorem race_not_exclusive :
    ¬ ∀ s t, Initial s → processes.Reaches Machine.anyStep s t → Exclusive t := by
  intro exclusive
  have ran : ∃ t, processes.run start race = some t ∧ Holds t 1 ∧ Holds t 2 :=
    ⟨_, rfl, ⟨rfl, rfl⟩, ⟨rfl, rfl⟩⟩
  obtain ⟨t, ran, first, second⟩ := ran
  have same := (exclusive start t start_initial (Machine.reaches_of_run ran)).one 1 2 first second
  cases same

end Sample

end Coordinate.ChecklistLock

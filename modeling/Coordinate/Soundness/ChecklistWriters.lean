import Coordinate.Model.ChecklistWriters
import Coordinate.Model.SampleChecklist
import Coordinate.Proofs.Checklists

/-! # No update is lost among writers that see each other

A writer replaces the file by what it has made of the text that it has read. While every commit finds that
text still there, the commits are a chain of revisions: nothing is lost, there is one file, and `start`
takes the item that it has tested. The lock sees to that between the processes of Coordinate, and not
between them and the others.
-/

namespace Coordinate.ChecklistWriters

open Coordinate.Checklist

section Conditions

variable [Platform] [Scripting]

/-- What the tests of `start` were made on is what the pipeline has read. -/
def Writer.Tested (writer : Writer) (text : JsonText) : Prop :=
  match writer with
  | start _ _ _ tested _ => tested = text
  | _ => True

/-- A commit finds the checklist as its process has read it. -/
def Current (s : State) : Label → Prop
  | .act pid .advance =>
    match s.phase pid with
    | .replacing writer kind text _ => s.files = only kind text ∧ writer.Tested text
    | .moving text => s.files = only .legacy text
    | _ => True
  | _ => True

/-- The lock that a process holds. -/
def Phase.lock : Phase → Option Kind
  | .reading writer kind | .computing writer kind _ | .replacing writer kind _ _ =>
    if writer.locks then some kind else none
  | .releasing kind => some kind
  | _ => none

/-- What a process has read under the lock. -/
def Phase.copy : Phase → Option (Kind × JsonText)
  | .computing writer kind text | .replacing writer kind text _ =>
    if writer.locks then some (kind, text) else none
  | _ => none

/-- A commit without the lock finds the checklist as its process has read it, and no process with the lock
between its reading and its commit. -/
def Careful (s : State) : Label → Prop
  | .act pid .advance =>
    match s.phase pid with
    | .replacing writer kind text _ =>
      writer.locks = false → s.files = only kind text ∧ writer.Tested text ∧ ∀ other, (s.phase other).copy = none
    | .moving text => s.files = only .legacy text ∧ ∀ other, (s.phase other).copy = none
    | _ => True
  | _ => True

end Conditions

section Files

variable {files : Files} {kind kind' : Kind} {text text' : JsonText}

theorem only_inj (same : only kind text = only kind' text') : kind = kind' ∧ text = text' := by
  cases kind <;> cases kind' <;> cases same <;> exact ⟨rfl, rfl⟩

theorem only_of_file (found : (only kind text).file kind' = some text') :
    only kind text = only kind' text' := by
  cases kind <;> cases kind' <;> cases found <;> rfl

theorem only_replace (candidate : Json) :
    (only kind text).replace kind candidate = only kind (.value candidate) := by
  cases kind <;> rfl

end Files

section Steps

variable [Platform] [Scripting] {s t : State} {label : Label} {pid : Pid}

/-- One step: the files stay and nothing is committed, or a pipeline replaces its file, or the legacy file
is renamed. -/
theorem step_cases (stepped : step s label = some t) :
    (t.files = s.files ∧ committed s label = none) ∨
    (∃ pid writer kind text candidate, label = .act pid .advance ∧
      s.phase pid = .replacing writer kind text candidate ∧ t.files = s.files.replace kind candidate ∧
      committed s label = some ⟨text, .value candidate⟩) ∨
    ∃ pid text, label = .act pid .advance ∧ s.phase pid = .moving text ∧
      rename s.files = some t.files ∧ committed s label = none := by
  cases label with
  | wait readings =>
    cases stepped
    exact .inl ⟨rfl, rfl⟩
  | act pid action =>
    cases action with
    | stop =>
      cases stepped
      exact .inl ⟨rfl, rfl⟩
    | run program =>
      dsimp only [step] at stepped
      split at stepped
      · cases stepped
        exact .inl ⟨rfl, rfl⟩
      · cases stepped
    | advance =>
      dsimp only [step, advance] at stepped
      dsimp only [committed]
      cases phase : s.phase pid with
      | idle =>
        rw [phase] at stepped
        cases stepped
      | resolving | looking | testing | migrating =>
        rw [phase] at stepped
        dsimp only at stepped
        split at stepped
        · cases stepped
          exact .inl ⟨rfl, rfl⟩
        · cases stepped
      | locking =>
        rw [phase] at stepped
        dsimp only at stepped
        split at stepped
        · cases stepped
          exact .inl ⟨rfl, rfl⟩
        · cases stepped
      | reading | computing | loading | validating =>
        rw [phase] at stepped
        obtain ⟨_, -, rfl⟩ := Option.map_eq_some_iff.mp stepped
        exact .inl ⟨rfl, rfl⟩
      | replacing writer kind text candidate =>
        rw [phase] at stepped
        cases stepped
        exact .inr (.inl ⟨pid, writer, kind, text, candidate, rfl, phase, rfl, rfl⟩)
      | releasing kind =>
        rw [phase] at stepped
        cases stepped
        exact .inl ⟨rfl, rfl⟩
      | moving text =>
        rw [phase] at stepped
        obtain ⟨files, renamed, rfl⟩ := Option.map_eq_some_iff.mp stepped
        exact .inr (.inr ⟨pid, text, rfl, phase, renamed, rfl⟩)

/-- The record is the chain of the revisions of the one checklist. -/
def Recorded (initial : JsonText) (s : State × List (Revision JsonText)) : Prop :=
  ∃ kind text, s.1.files = only kind text ∧ Revision.Chain initial s.2 text

/-- The step lemma. -/
theorem recorded_step {initial : JsonText} {trail trail' : List (Revision JsonText)}
    (chained : Recorded initial (s, trail)) (current : Current s label)
    (stepped : recorded.step (s, trail) label = some (t, trail')) : Recorded initial (t, trail') := by
  obtain ⟨inner, rfl⟩ := Machine.recording_step.mp stepped
  obtain ⟨kind, text, one, chain⟩ := chained
  rcases step_cases inner with ⟨same, silent⟩ |
    ⟨pid, writer, kind', text', candidate, rfl, phase, replaced, noted⟩ |
    ⟨pid, text', rfl, phase, renamed, silent⟩
  · rw [silent, Option.toList_none, List.append_nil]
    exact ⟨kind, text, same.trans one, chain⟩
  · simp only [Current, phase] at current
    obtain ⟨rfl, rfl⟩ := only_inj (one.symm.trans current.1)
    rw [noted, Option.toList_some]
    rw [current.1, only_replace] at replaced
    exact ⟨kind, _, replaced, .snoc ⟨text, .value candidate⟩ chain⟩
  · simp only [Current, phase] at current
    obtain ⟨rfl, rfl⟩ := only_inj (one.symm.trans current)
    rw [silent, Option.toList_none, List.append_nil]
    rw [current] at renamed
    exact ⟨.new, text, (Option.some.inj renamed).symm, chain⟩

/-- `start` has passed its tests. -/
def Writer.Passed (writer : Writer) : Prop :=
  match writer with
  | start site arguments planPath tested testedAt =>
    ∃ tick, testStart site arguments tested testedAt = .ok (planPath, tick)
  | _ => True

/-- The pipeline that a process is in. -/
def Phase.writer : Phase → Option Writer
  | .resolving writer | .locking writer _ | .reading writer _ | .computing writer _ _
  | .replacing writer _ _ _ => some writer
  | _ => none

/-- What a process takes along to its next phase, and what it leaves to the others. -/
structure Advanced (s t : State) (pid : Pid) (next : Phase) : Prop where
  phase : t.phase = Function.update s.phase pid next
  writer : ∀ writer, next.writer = some writer → (s.phase pid).writer = some writer ∨ writer.Passed
  kept : ∀ kind other, other ≠ pid → s.lock kind = some other →
    t.lock kind = some other ∨ (s.phase pid).lock = some kind
  held : ∀ kind, next.lock = some kind →
    t.lock kind = some pid ∨ t.lock = s.lock ∧ (s.phase pid).lock = some kind
  copy : ∀ kind text, next.copy = some (kind, text) →
    t.files = s.files ∧ ((s.phase pid).copy = some (kind, text) ∨ s.files.file kind = some text)

theorem advance_ok (stepped : advance s pid = some t) : ∃ next, Advanced s t pid next := by
  rw [advance] at stepped
  cases phase : s.phase pid with
  | idle =>
    rw [phase] at stepped
    cases stepped
  | resolving writer =>
    rw [phase] at stepped
    dsimp only at stepped
    split at stepped
    · cases stepped
      refine ⟨_, rfl, fun other same => ?_, fun _ _ _ held => .inl held, fun kind held => ?_, fun kind text copied => ?_⟩
      · rw [phase]
        split at same <;> exact .inl same
      · split at held
        · cases held
        · rename_i free
          rw [Phase.lock, if_neg free] at held
          cases held
      · split at copied <;> cases copied
    · cases stepped
  | locking writer kind =>
    rw [phase] at stepped
    dsimp only at stepped
    split at stepped
    · rename_i free
      cases stepped
      refine ⟨_, rfl, fun other same => .inl (by rw [phase]; exact same), fun kind' other _ held => .inl ?_,
        fun kind' held => .inl ?_, fun kind text copied => (by cases copied)⟩
      · have apart : kind' ≠ kind := by
          rintro rfl
          rw [free] at held
          cases held
        exact (Function.update_of_ne apart ..).trans held
      · dsimp only [Phase.lock] at held
        split at held
        · cases held
          exact Function.update_self ..
        · cases held
    · cases stepped
  | reading writer kind =>
    rw [phase] at stepped
    obtain ⟨text, found, rfl⟩ := Option.map_eq_some_iff.mp stepped
    refine ⟨_, rfl, fun other same => .inl (by rw [phase]; exact same), fun _ _ _ held => .inl held,
      fun kind' held => .inr ⟨rfl, by rw [phase]; exact held⟩, fun kind' text' copied => ⟨rfl, .inr ?_⟩⟩
    dsimp only [Phase.copy] at copied
    split at copied
    · cases copied
      exact found
    · cases copied
  | computing writer kind text =>
    rw [phase] at stepped
    obtain ⟨_, -, rfl⟩ := Option.map_eq_some_iff.mp stepped
    exact ⟨_, rfl, fun other same => .inl (by rw [phase]; exact same), fun _ _ _ held => .inl held,
      fun kind' held => .inr ⟨rfl, by rw [phase]; exact held⟩,
      fun kind' text' copied => ⟨rfl, .inl (by rw [phase]; exact copied)⟩⟩
  | replacing writer kind text candidate =>
    rw [phase] at stepped
    cases stepped
    refine ⟨_, rfl, fun other same => ?_, fun _ _ _ held => .inl held, fun kind' held => .inr ⟨rfl, ?_⟩,
      fun kind' text' copied => ?_⟩
    · split at same <;> cases same
    · rw [phase]
      split at held
      · rename_i locks
        cases held
        exact if_pos locks
      · cases held
    · split at copied <;> cases copied
  | releasing kind =>
    rw [phase] at stepped
    cases stepped
    refine ⟨_, rfl, fun other same => (by cases same), fun kind' other _ held => ?_,
      fun kind' held => (by cases held), fun kind' text' copied => (by cases copied)⟩
    by_cases same : kind' = kind
    · subst same
      rw [phase]
      exact .inr rfl
    · exact .inl ((Function.update_of_ne same ..).trans held)
  | looking | migrating =>
    rw [phase] at stepped
    dsimp only at stepped
    split at stepped
    · cases stepped
      exact ⟨_, rfl, fun other same => (by cases same), fun _ _ _ held => .inl held, fun kind held => (by cases held),
        fun kind text copied => (by cases copied)⟩
    · cases stepped
  | loading | validating =>
    rw [phase] at stepped
    obtain ⟨_, -, rfl⟩ := Option.map_eq_some_iff.mp stepped
    exact ⟨_, rfl, fun other same => (by cases same), fun _ _ _ held => .inl held, fun kind held => (by cases held),
      fun kind text copied => (by cases copied)⟩
  | testing site arguments text =>
    rw [phase] at stepped
    dsimp only at stepped
    split at stepped
    · rename_i planPath tick passed
      cases stepped
      refine ⟨_, rfl, fun other same => .inr ?_, fun _ _ _ held => .inl held, fun kind held => (by cases held),
        fun kind text copied => (by cases copied)⟩
      cases same
      exact ⟨tick, passed⟩
    · cases stepped
  | moving text =>
    rw [phase] at stepped
    obtain ⟨_, -, rfl⟩ := Option.map_eq_some_iff.mp stepped
    exact ⟨_, rfl, fun other same => (by cases same), fun _ _ _ held => .inl held, fun kind held => (by cases held),
      fun kind text copied => (by cases copied)⟩

/-- The same of whatever a process does. -/
theorem act_ok {action : Action} (stepped : step s (.act pid action) = some t) :
    ∃ next, Advanced s t pid next := by
  cases action with
  | advance => exact advance_ok stepped
  | stop =>
    cases stepped
    refine ⟨.idle, rfl, fun _ same => (by cases same), fun kind other apart held => .inl ?_,
      fun _ held => (by cases held), fun _ _ copied => (by cases copied)⟩
    exact (if_neg fun same => apart (Option.some.inj (held.symm.trans same))).trans held
  | run program =>
    dsimp only [step] at stepped
    split at stepped
    · cases stepped
      refine ⟨begin program, rfl, fun _ same => .inr ?_, fun _ _ _ held => .inl held, fun _ held => ?_,
        fun _ _ copied => ?_⟩ <;> cases program
      all_goals first | cases same | cases held | cases copied
      all_goals exact trivial
    · cases stepped

/-- Every `start` that is in its pipeline has passed its tests. -/
def AllPassed (s : State) : Prop := ∀ pid writer, (s.phase pid).writer = some writer → writer.Passed

theorem allPassed_step (passed : AllPassed s) (stepped : step s label = some t) : AllPassed t := by
  intro other writer same
  cases label with
  | wait readings =>
    cases stepped
    exact passed other writer same
  | act pid action =>
    obtain ⟨next, advanced⟩ := act_ok stepped
    rw [advanced.phase] at same
    by_cases own : other = pid
    · subst own
      rw [Function.update_self] at same
      exact (advanced.writer writer same).elim (passed other writer) id
    · rw [Function.update_of_ne own] at same
      exact passed other writer same

/-- There is one checklist, a process that is under the lock has it, and what it has read is in force. -/
structure Guarded (s : State) : Prop where
  one : ∃ kind text, s.files = only kind text
  held : ∀ pid kind, (s.phase pid).lock = some kind → s.lock kind = some pid
  copied : ∀ pid kind text, (s.phase pid).copy = some (kind, text) → s.files = only kind text

omit [Platform] [Scripting] in
/-- A process has a copy only under the lock. -/
theorem lock_of_copy {phase : Phase} {kind : Kind} {text : JsonText}
    (copied : phase.copy = some (kind, text)) : phase.lock = some kind := by
  cases phase with
  | computing writer _ _ =>
    dsimp only [Phase.copy] at copied
    split at copied
    · rename_i locks
      cases copied
      exact if_pos locks
    · cases copied
  | replacing writer _ _ _ =>
    dsimp only [Phase.copy] at copied
    split at copied
    · rename_i locks
      cases copied
      exact if_pos locks
    · cases copied
  | _ => cases copied

/-- A process has gone on, and nobody else has a copy of a file that has changed. -/
theorem Guarded.advance {next : Phase} (guarded : Guarded s) (advanced : Advanced s t pid next)
    (one : ∃ kind text, t.files = only kind text)
    (same : t.files = s.files ∨ ∀ other, other ≠ pid → (s.phase other).copy = none) : Guarded t where
  one := one
  held other kind held := by
    rw [advanced.phase] at held
    by_cases own : other = pid
    · subst own
      rw [Function.update_self] at held
      rcases advanced.held kind held with has | ⟨still, had⟩
      · exact has
      · rw [still]
        exact guarded.held other kind had
    · rw [Function.update_of_ne own] at held
      have had := guarded.held other kind held
      rcases advanced.kept kind other own had with still | mine
      · exact still
      · exact absurd (Option.some.inj (had.symm.trans (guarded.held pid kind mine))) own
  copied other kind text copied := by
    rw [advanced.phase] at copied
    by_cases own : other = pid
    · subst own
      rw [Function.update_self] at copied
      obtain ⟨still, had⟩ := advanced.copy kind text copied
      rw [still]
      rcases had with had | found
      · exact guarded.copied other kind text had
      · obtain ⟨kind', text', inForce⟩ := guarded.one
        rw [inForce] at found ⊢
        exact only_of_file found
    · rw [Function.update_of_ne own] at copied
      rcases same with still | none
      · rw [still]
        exact guarded.copied other kind text copied
      · rw [none other own] at copied
        cases copied

omit [Platform] [Scripting] in
/-- Under the lock, a commit finds what its process has read. -/
theorem Guarded.current (guarded : Guarded s) (careful : Careful s label) : Current s label := by
  cases label with
  | wait readings => trivial
  | act pid action =>
    cases action with
    | stop => trivial
    | run program => trivial
    | advance =>
      dsimp only [Careful, Current] at careful ⊢
      cases phase : s.phase pid with
      | replacing writer kind text candidate =>
        rw [phase] at careful
        dsimp only at careful ⊢
        cases locks : writer.locks with
        | false =>
          obtain ⟨one, tested, -⟩ := careful locks
          exact ⟨one, tested⟩
        | true =>
          refine ⟨guarded.copied pid kind text ?_, ?_⟩
          · rw [phase]
            exact if_pos locks
          · cases writer with
            | managed => trivial
            | script => cases locks
            | start => cases locks
      | moving text =>
        rw [phase] at careful
        exact careful.1
      | _ => trivial

/-- The step lemma of careful runs. -/
theorem guarded_step (guarded : Guarded s) (careful : Careful s label) (stepped : step s label = some t) :
    Guarded t := by
  have current := guarded.current careful
  cases label with
  | wait readings =>
    cases stepped
    exact ⟨guarded.one, guarded.held, guarded.copied⟩
  | act pid action =>
    obtain ⟨next, advanced⟩ := act_ok stepped
    rcases step_cases stepped with ⟨same, -⟩ | ⟨_, writer, kind, text, candidate, label, phase, replaced, -⟩ |
      ⟨_, text, label, phase, renamed, -⟩
    · exact guarded.advance advanced (same ▸ guarded.one) (.inl same)
    · cases label
      simp only [Current, phase] at current
      simp only [Careful, phase] at careful
      rw [current.1, only_replace] at replaced
      refine guarded.advance advanced ⟨kind, _, replaced⟩ (.inr fun other apart => ?_)
      cases locks : writer.locks with
      | false => exact (careful locks).2.2 other
      | true =>
        cases copied : (s.phase other).copy with
        | none => rfl
        | some copy =>
          -- two copies are of the one checklist, whose lock only one of them can have
          have mine : (s.phase pid).lock = some kind := by
            rw [phase]
            exact if_pos locks
          have inForce := guarded.copied other copy.1 copy.2 copied
          obtain ⟨sameKind, -⟩ := only_inj (inForce.symm.trans current.1)
          have theirs := guarded.held other copy.1 (lock_of_copy copied)
          rw [sameKind, guarded.held pid kind mine] at theirs
          exact absurd (Option.some.inj theirs).symm apart
    · cases label
      simp only [Current, phase] at current
      simp only [Careful, phase] at careful
      rw [current] at renamed
      exact guarded.advance advanced ⟨.new, text, (Option.some.inj renamed).symm⟩
        (.inr fun other _ => careful.2 other)

end Steps

section Start

variable [Platform] [Scripting] {site : Site} {arguments : ClaimArguments} {text : JsonText}
  {planPath : Path.Pure} {n m : Nat}

/-- What `start` has seen, if it is not forced. -/
theorem testStart_ok (unforced : arguments.force = false)
    (passed : testStart site arguments text n = .ok (planPath, m)) :
    ∃ checklist item, text = .value checklist ∧
      (entries checklist).find? (isNamed arguments.item) = some item ∧
      Claimable item arguments.owner false n := by
  rw [testStart, unforced] at passed
  simp only [script_bind_ok, script_orRaise_ok, script_raiseIf_ok] at passed
  obtain ⟨checklist, _, ⟨loaded, rfl⟩, _, _, ⟨-, rfl⟩, _, _, ⟨-, rfl⟩, _, _, ⟨-, rfl⟩, _, _, ⟨-, rfl⟩, item, _,
    ⟨required, rfl⟩, _, _, claimable, -⟩ := passed
  exact ⟨checklist, item, loads_ok loaded, requireItem_ok required, assertCanStart_ok claimable⟩

omit [Platform] in
/-- A lease that is active has been active before. -/
theorem activeLease_mono {item lease : Json} {earlier later : Nat} (order : earlier ≤ later)
    (active : activeLease item later = .ok (some lease)) : activeLease item earlier = .ok (some lease) := by
  unfold activeLease at active ⊢
  dsimp only at active ⊢
  split at active
  · cases active
  · rename_i present
    rw [if_neg present]
    obtain ⟨expiry, parsed, active⟩ := Except.bind_ok.mp active
    refine Except.bind_ok.mpr ⟨expiry, parsed, ?_⟩
    cases expiry with
    | none => exact active
    | some expiry =>
      dsimp only at active ⊢
      split at active
      · rename_i later
        rw [if_pos (by omega)]
        exact active
      · cases active

end Start

section Runs

variable [Platform] [Scripting] {s : State}

/-- **No update is lost.** In every run whose commits find the checklist as their processes have read it,
there is one checklist file, every view of a committed mutation is in the checklist unless a later
mutation has changed it, and `start` gives no item away that is under another owner's lease. Runs in which
the commits without the lock are careful are such runs, whatever the processes under the lock do. -/
theorem no_update_lost (initial : Initial s) :
    (∀ t trail, recorded.Reaches (fun u => Current u.1) (s, []) (t, trail) →
      ∃ kind value, t.files = only kind value ∧ ∀ earlier revision later,
        trail = earlier ++ revision :: later → ∀ (α : Type) (view : JsonText → α),
          view value = view revision.after ∨ ∃ change ∈ later, view change.before ≠ view change.after) ∧
    (∀ t pid site arguments planPath tested testedAt kind text candidate, writers.Reaches Current s t →
      t.phase pid = .replacing (.start site arguments planPath tested testedAt) kind text candidate →
      Current t (.act pid .advance) → arguments.force = false →
      ∃ checklist item, t.files = only kind (.value checklist) ∧
        (entries checklist).find? (isNamed arguments.item) = some item ∧
        ∀ time lease, now testedAt ≤ time → activeLease item time = .ok (some lease) →
          lease.get "owner" = .str arguments.owner) ∧
    (∀ t, writers.Reaches Careful s t → writers.Reaches Current s t) := by
  obtain ⟨kind, text, there⟩ := initial.files
  refine ⟨fun t trail run => ?_,
    fun t pid site arguments planPath tested testedAt kind text candidate run phase current unforced => ?_,
    fun t run => ?_⟩
  · obtain ⟨kind, value, one, chain⟩ : Recorded text (t, trail) :=
      run.invariant (fun _ _ _ chained current stepped => recorded_step chained current stepped)
        ⟨kind, text, there, .nil⟩
    refine ⟨kind, value, one, fun earlier revision later split α view => ?_⟩
    rw [split] at chain
    exact chain.contains view
  · have passed : AllPassed t :=
      run.invariant (fun _ _ _ passed _ stepped => allPassed_step passed stepped) fun pid writer same => by
        rw [initial.phase pid] at same
        cases same
    simp only [Current, phase] at current
    obtain ⟨inForce, tested⟩ := current
    have tested : _ = text := tested
    subst tested
    obtain ⟨tick, passed⟩ := passed pid _ (congrArg Phase.writer phase)
    obtain ⟨checklist, item, rfl, found, claimable⟩ := testStart_ok unforced passed
    refine ⟨checklist, item, inForce, found, fun time lease order active => ?_⟩
    rcases claimable.free lease (activeLease_mono order active) with own | none
    · exact own
    · cases none
  · have guarded : Guarded s := by
      refine ⟨⟨kind, text, there⟩, fun pid kind held => ?_, fun pid kind text copied => ?_⟩
      · rw [initial.phase pid] at held
        cases held
      · rw [initial.phase pid] at copied
        cases copied
    suffices both : writers.Reaches Current s t ∧ Guarded t from both.1
    induction run with
    | refl => exact ⟨.refl, guarded⟩
    | tail _ label careful stepped ih =>
      obtain ⟨run, guarded⟩ := ih
      exact ⟨.tail run label (guarded.current careful) stepped, guarded_step guarded careful stepped⟩

end Runs

namespace Sample

open Coordinate.Sample Coordinate.Checklist.Sample

/-- The harness before any process is at work. -/
def still (files : Files) : State where
  files
  tick := 0
  lock _ := none
  phase _ := .idle

theorem still_initial (item : Json) : Initial (still (harnessOf item).files) :=
  ⟨⟨.new, _, rfl⟩, fun _ => rfl, fun _ => rfl⟩

/-- A process runs a program as far as a number of steps take it. -/
def runs (pid : Pid) (program : Program) (steps : Nat) : List Label :=
  .act pid (.run program) :: List.replicate steps (.act pid .advance)

def closing : Program := .script site (onItem "a" fun _ => closeOutItem { item := "a" })

def assigning : Program := .script site (onItem "a" (assignItem site (claim "x")))

/-- The owner of the first item. -/
def owner (text : JsonText) : Json :=
  match text with
  | .value checklist => ((entries checklist).head?.map fun item => item.get "owner").getD .null
  | _ => .null

def legacy : Files := ⟨none, (harnessOf (itemOf "todo" [])).files.new⟩

def starting : Program := .start site (claim "y")

def noting : Program := .managed "/p/docs" fun checklist => .ok (checklist.set "note" (.str "n"), true)

/-- The first item belongs to somebody under a lease that is active. -/
def isTaken (holder : String) (s : State) : Bool :=
  match s.files.new with
  | some (.value checklist) => (entries checklist).head?.any fun item =>
      item.get "owner" = .str holder && match activeLease item (now s.tick) with
        | .ok (some lease) => lease.get "owner" = .str holder
        | _ => false
  | _ => false

/-- The phase of a process that `start` has begun. -/
def isStart (phase : Phase) : Bool :=
  match phase with
  | .replacing (.start _ arguments _ _ _) _ _ _ => arguments = claim "y"
  | _ => false

/-- The second of two writes keeps an owner that the first had changed. -/
def overwrites (s : State × List (Revision JsonText)) : Bool :=
  match s.2, s.1.files with
  | [revision, change], ⟨some value, none⟩ =>
    owner change.before = owner change.after && owner value ≠ owner revision.after
  | _, _ => false

/-- The closeout of one process undoes the assignment of another; a pipeline writes the legacy file again
after it has been renamed; `start` takes an item that has been given away since it was tested. -/
theorem updates_lost :
    (∃ t revision change value, recorded.Reaches Machine.anyStep
      (still (harnessOf (itemOf "todo" [])).files, []) (t, [revision, change]) ∧
      t.files = only .new value ∧ owner change.before = owner change.after ∧
      owner value ≠ owner revision.after) ∧
    (∃ t, writers.Reaches Machine.anyStep (still legacy) t ∧ t.files.new ≠ none ∧ t.files.legacy ≠ none) ∧
    (∃ t u, writers.Reaches Machine.anyStep (still (harnessOf (itemOf "todo" [])).files) t ∧
      isStart (t.phase 0) = true ∧ isTaken "x" t = true ∧ writers.step t (.act 0 .advance) = some u ∧
      isTaken "y" u = true) := by
  refine ⟨?_, ?_, ?_⟩
  · obtain ⟨⟨t, trail⟩, run, checked⟩ :=
      @Machine.exists_reaches _ _ recorded Machine.anyStep
        (still (harnessOf (itemOf "todo" [])).files, []) (fun _ _ => true)
        overwrites (fun _ _ _ => trivial)
        (runs 0 closing 3 ++ runs 1 assigning 4 ++ [.act 0 .advance]) (by decide +kernel)
    dsimp only [overwrites] at checked
    split at checked
    · rename_i revision change value files
      simp only [Bool.and_eq_true, decide_eq_true_eq] at checked
      exact ⟨t, revision, change, value, run, files, checked.1, checked.2⟩
    · cases checked
  · obtain ⟨t, run, checked⟩ :=
      @Machine.exists_reaches _ _ writers Machine.anyStep (still legacy) (fun _ _ => true)
        (fun s => s.files.new ≠ none && s.files.legacy ≠ none) (fun _ _ _ => trivial)
        (runs 0 closing 3 ++ runs 1 .migrate 3 ++ [.act 0 .advance]) (by decide +kernel)
    simp only [Bool.and_eq_true, decide_eq_true_eq] at checked
    exact ⟨t, run, checked⟩
  · obtain ⟨t, run, checked⟩ :=
      @Machine.exists_reaches _ _ writers Machine.anyStep (still (harnessOf (itemOf "todo" [])).files)
        (fun _ _ => true) (fun t => isStart (t.phase 0) && isTaken "x" t &&
          (writers.step t (.act 0 .advance)).any fun u => isTaken "y" u) (fun _ _ _ => trivial)
        (runs 0 starting 3 ++ runs 1 assigning 4 ++ List.replicate 3 (.act 0 .advance)) (by decide +kernel)
    simp only [Bool.and_eq_true, Option.any_eq_true] at checked
    obtain ⟨⟨begun, taken⟩, u, stepped, given⟩ := checked
    exact ⟨t, u, run, begun, taken, stepped, given⟩

/-- A commit of a pipeline that is not `start` finds what it has read, and nothing is renamed. -/
def inForce (s : State) : Label → Bool
  | .act pid .advance =>
    match s.phase pid with
    | .replacing (.start ..) _ _ _ | .moving _ => false
    | .replacing _ kind text _ => s.files = only kind text
    | _ => true
  | _ => true

theorem current_of_inForce (s : State) (label : Label) (passed : inForce s label = true) :
    Current s label := by
  cases label with
  | wait readings => trivial
  | act pid action =>
    cases action with
    | run program => trivial
    | stop => trivial
    | advance =>
      dsimp only [inForce, Current] at passed ⊢
      cases phase : s.phase pid with
      | moving text =>
        rw [phase] at passed
        cases passed
      | replacing writer kind text candidate =>
        rw [phase] at passed
        cases writer with
        | managed => exact ⟨of_decide_eq_true passed, trivial⟩
        | script => exact ⟨of_decide_eq_true passed, trivial⟩
        | start => cases passed
      | _ => trivial

/-- Two writers one after the other. -/
theorem updates_kept : ∃ t revision change kind value, recorded.Reaches (fun u => Current u.1)
    (still (harnessOf (itemOf "todo" [])).files, []) (t, [revision, change]) ∧ t.files = only kind value ∧
    ∀ (α : Type) (view : JsonText → α), view change.before = view change.after →
      view value = view revision.after := by
  obtain ⟨⟨t, trail⟩, run, checked⟩ :=
    @Machine.exists_reaches _ _ recorded (fun u => Current u.1)
      (still (harnessOf (itemOf "todo" [])).files, []) (fun u => inForce u.1) (fun s => s.2.length = 2)
      (fun s label passed => current_of_inForce s.1 label passed)
      (runs 0 noting 6 ++ runs 1 assigning 4) (by decide +kernel)
  obtain ⟨revision, change, rfl⟩ := List.length_eq_two.mp (of_decide_eq_true checked)
  obtain ⟨kind, value, one, kept⟩ := (no_update_lost (still_initial (itemOf "todo" []))).1 t _ run
  refine ⟨t, revision, change, kind, value, run, one, fun α view same => ?_⟩
  rcases kept [] revision [change] rfl α view with kept | ⟨other, member, differs⟩
  · exact kept
  · cases List.mem_singleton.mp member
    exact absurd same differs

end Sample

end Coordinate.ChecklistWriters

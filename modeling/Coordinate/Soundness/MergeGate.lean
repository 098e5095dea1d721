import Coordinate.Model.Installation
import Coordinate.Proofs.MergeGate

/-! # What the merge gate stands on

In every run in which no push comes between what a call observes and the head that it asks for, each
positive row rests on a positive observation of its pull request, made on the head that the row states,
and a gate that answers ready reports a head on which the last rows of both kinds were observed. A push
between the two questions of one call records checks of the old head as checks of the new one.
-/

namespace Coordinate.MergeGate

open GitHub

/-- The observation under a positive row: the call that has recorded the row has seen something
positive, of this pull request and on this head. -/
structure Evidence (s : State) (signal : Signal) (row : EventRow) (pr head : String) : Prop where
  states : States row pr head
  observed : ∃ call result, s.phase call = .returned (.observed signal result) ∧
    result.event.row = row ∧ result.eventCreated = true ∧ result.seen.verdict = .positive ∧
    result.seen.pr = pr ∧ result.seen.head = head

/-- Each positive row has its evidence. -/
def Evident (s : State) : Prop :=
  ∀ signal, ∀ row ∈ s.db.events, row.eventType = signal.eventType .positive →
    ∃ pr head, Evidence s signal row pr head

/-- The head and the pull request that an answer of the gate reports have evidence of both kinds in the
rows that the task recorded last. -/
def Backed (s : State) (result : MergeGateResult) : Prop :=
  ∃ pr head, result.hasPr = .passed "pr" pr ∧ result.currentHead = .passed "head_sha" head ∧
    ∀ signal, ∃ row, lastRecorded s.db result.workspaceId result.taskId signal = some row ∧
      row.eventType = signal.eventType .positive ∧ Evidence s signal row pr head

/-- The steps that no push and no other row comes in between: the head is asked for while it is the one
on which something positive was seen, a row is not stamped before the rows of its kind, and the review
row that a gate has read is still the latest when it reads the CI row. -/
def Steady [Platform] (s : State) : Label → Prop
  | .query call _ =>
    match s.phase call with
    | .checking _ _ (.heading target seen) =>
      seen.verdict = .positive → s.heads target.pr = seen.head
    | _ => True
  | .proceed call =>
    match s.phase call with
    | .checking signal arguments (.appending ..) =>
      ∀ row ∈ rowsOf s.db arguments.workspaceId arguments.taskId signal,
        row.createdAt ≤ now s.work.tick
    | .gating workspaceId taskId (.concluding _ _ review) =>
      latest s.db workspaceId taskId .review = review
    | _ => True
  | _ => True

/-- What a check in progress has seen is of its pull request, and on the head that it has been told. -/
def Placed : Phase → Prop
  | .checking _ _ (.heading target seen) => seen.pr = target.pr
  | .checking _ _ (.comparing target seen headSha) =>
    seen.pr = target.pr ∧ (seen.verdict = .positive → seen.head = headSha)
  | .checking _ _ (.appending target seen headSha) =>
    seen.pr = target.pr ∧ (seen.verdict = .positive → seen.head = headSha)
  | _ => True

/-- The invariant of the calls. -/
structure Kept (s : State) : Prop where
  evident : Evident s
  ordered : Ordered s.db
  placed : ∀ call, Placed (s.phase call)

section Steps

variable {s u : State}

/-- The calls that have returned stay as they are. -/
def Settles (s u : State) : Prop :=
  ∀ call outcome, s.phase call = .returned outcome → u.phase call = .returned outcome

theorem Evidence.later {signal : Signal} {row : EventRow} {pr head : String}
    (evidence : Evidence s signal row pr head) (settles : Settles s u) :
    Evidence u signal row pr head := by
  obtain ⟨call, result, returned, rest⟩ := evidence.observed
  exact ⟨evidence.states, call, result, settles call _ returned, rest⟩

theorem settles_update {call : Nat} {phase : Phase}
    (running : ∀ outcome, s.phase call ≠ .returned outcome)
    (phases : u.phase = Function.update s.phase call phase) : Settles s u := by
  intro other outcome returned
  have apart : other ≠ call := by
    rintro rfl
    exact running outcome returned
  rw [phases, Function.update_of_ne apart]
  exact returned

theorem placed_update {call : Nat} {phase : Phase} (placed : ∀ call, Placed (s.phase call))
    (here : Placed phase) (phases : u.phase = Function.update s.phase call phase) (other : Nat) :
    Placed (u.phase other) := by
  rw [phases]
  by_cases same : other = call
  · subst same
    rw [Function.update_self]
    exact here
  · rw [Function.update_of_ne same]
    exact placed other

theorem Kept.same (kept : Kept s) (events : u.db.events = s.db.events) (settles : Settles s u)
    (placed : ∀ call, Placed (u.phase call)) : Kept u where
  evident signal row member type := by
    rw [events] at member
    obtain ⟨pr, head, evidence⟩ := kept.evident signal row member type
    exact ⟨pr, head, evidence.later settles⟩
  ordered := by
    have ordered := kept.ordered
    unfold Ordered rowsOf at ordered ⊢
    rw [events]
    exact ordered
  placed := placed

/-- A step of one call that records nothing. -/
theorem Kept.move (kept : Kept s) {call : Nat} {phase : Phase}
    (running : ∀ outcome, s.phase call ≠ .returned outcome) (placed : Placed phase)
    (events : u.db.events = s.db.events)
    (phases : u.phase = Function.update s.phase call phase) : Kept u :=
  kept.same events (settles_update running phases) (placed_update kept.placed placed phases)

/-- A row at the end of the ledger is the last of its kind. -/
theorem rowsOf_append {db later : Db} {row : EventRow}
    (rows : later.events.rows = db.events.rows ++ [row]) (workspaceId taskId : String)
    (signal : Signal) : rowsOf later workspaceId taskId signal =
      rowsOf db workspaceId taskId signal ++
        if row.workspaceId = some workspaceId ∧ row.taskId = some taskId ∧ signal.isRow row = true
        then [row] else [] := by
  unfold rowsOf Table.filter
  rw [rows, List.filter_append]
  congr 1
  by_cases chosen : row.workspaceId = some workspaceId ∧ row.taskId = some taskId ∧
      signal.isRow row = true
  · rw [if_pos chosen]
    simp [chosen]
  · rw [if_neg chosen]
    simpa [and_assoc] using chosen

/-- Another program records an event. -/
theorem Kept.foreign (kept : Kept s) {row : EventRow} (foreign : isForeign row = true)
    (rows : u.db.events.rows = s.db.events.rows ++ [row]) (phases : u.phase = s.phase) :
    Kept u where
  evident signal other member type := by
    rw [Table.mem_def, rows] at member
    rcases List.mem_append.mp member with old | new
    · obtain ⟨pr, head, evidence⟩ := kept.evident signal other old type
      exact ⟨pr, head, evidence.later fun call outcome returned => by rw [phases]; exact returned⟩
    · cases List.mem_singleton.mp new
      have positive := isRow_eventType signal type
      rw [not_isRow_of_foreign foreign signal] at positive
      cases positive
  ordered workspaceId taskId signal := by
    rw [rowsOf_append rows, if_neg fun chosen => ?_, List.append_nil]
    · exact kept.ordered workspaceId taskId signal
    · rw [not_isRow_of_foreign foreign signal] at chosen
      exact Bool.false_ne_true chosen.2.2
  placed call := by
    rw [phases]
    exact kept.placed call

variable [Platform]

/-- A check records what it has seen. -/
theorem Kept.record (kept : Kept s) {call : Nat} {signal : Signal} {arguments : CheckArguments}
    {target : Target} {seen : Observation} {headSha : String} {result : ObservationResult}
    (was : s.phase call = .checking signal arguments (.appending target seen headSha))
    (later : ∀ row ∈ rowsOf s.db arguments.workspaceId arguments.taskId signal,
      row.createdAt ≤ now s.work.tick)
    (records : Records s.work u.work signal arguments target seen headSha result)
    (phases : u.phase = Function.update s.phase call (.returned (.observed signal result))) :
    Kept u := by
  have running : ∀ outcome, s.phase call ≠ .returned outcome := by
    intro outcome
    rw [was]
    exact Phase.noConfusion
  have settles := settles_update running phases
  have placed := kept.placed call
  rw [was] at placed
  refine ⟨fun other row member type => ?_, fun workspaceId taskId other => ?_,
    placed_update kept.placed (show Placed (.returned _) from trivial) phases⟩
  · rw [Table.mem_def, records.rows] at member
    rcases List.mem_append.mp member with old | new
    · obtain ⟨pr, head, evidence⟩ := kept.evident other row old type
      exact ⟨pr, head, evidence.later settles⟩
    · cases List.mem_singleton.mp new
      rw [records.row] at type
      obtain ⟨rfl, positive⟩ := eventType_inj type
      refine ⟨target.pr, headSha, ?_, call, result, ?_, rfl, records.created, ?_, ?_, ?_⟩
      · rw [records.row]
        exact states_observation _ _ _ _ _ _ _
      · rw [phases, Function.update_self]
      · rw [records.seen]
        exact positive
      · rw [records.seen]
        exact placed.1
      · rw [records.seen]
        exact placed.2 positive
  · rw [rowsOf_append records.rows]
    split
    · rename_i chosen
      refine List.pairwise_append.mpr ⟨kept.ordered _ _ _, List.pairwise_singleton _ _, ?_⟩
      intro row member new same
      cases List.mem_singleton.mp same
      rw [records.row] at chosen ⊢
      obtain ⟨workspace, task, kind⟩ := chosen
      cases workspace
      cases task
      have own : signal = other := by
        simp only [Signal.isRow, Bool.or_eq_true, decide_eq_true_eq] at kind
        rcases kind with (same | same) | same <;> exact (eventType_inj same).1
      subst own
      exact later row member
    · rw [List.append_nil]
      exact kept.ordered _ _ _

omit [Platform] in
theorem placed_resume {next : Except Exn Phase}
    (goes : ∀ phase, next = .ok phase → Placed phase) : Placed (resume next) := by
  cases next with
  | ok phase => exact goes phase rfl
  | error e => trivial

omit [Platform] in
theorem observe_pr {signal : Signal} {pr head : String} {answer : Answer} {seen : Observation}
    (observed : signal.observe pr head answer = .ok seen) : seen.pr = pr ∧ seen.head = head := by
  cases signal with
  | ci =>
    obtain ⟨checks, -, same⟩ := Except.bind_ok.mp observed
    cases same
    exact ⟨rfl, rfl⟩
  | review =>
    obtain ⟨verdict, -, same⟩ := Except.bind_ok.mp observed
    cases same
    exact ⟨rfl, rfl⟩

omit [Platform] in
/-- The comparison keeps what the call has seen. -/
theorem compare_ok {db : Db} {signal : Signal} {arguments : CheckArguments} {target : Target}
    {seen : Observation} {headSha : String} {phase : Phase}
    (compared : compare db signal arguments target seen headSha = .ok phase) :
    phase = .checking signal arguments (.appending target seen headSha) ∨
      ∃ result, phase = .returned (.observed signal result) := by
  unfold compare at compared
  split at compared
  · cases compared
    exact .inl rfl
  · obtain ⟨same, -, compared⟩ := Except.bind_ok.mp compared
    split at compared
    · obtain ⟨event, -, compared⟩ := Except.bind_ok.mp compared
      cases compared
      exact .inr ⟨_, rfl⟩
    · cases compared
      exact .inl rfl

theorem kept_check {signal : Signal} {arguments : CheckArguments} {point : CheckPoint} {call : Nat}
    {work : Work Db} {phase : Phase} (kept : Kept s)
    (was : s.phase call = .checking signal arguments point) (steady : Steady s (.proceed call))
    (stepped : checkStep s.work signal arguments point = some (work, phase)) :
    Kept { s with work, phase := Function.update s.phase call phase } := by
  have running : ∀ outcome, s.phase call ≠ .returned outcome := by
    intro outcome
    rw [was]
    exact Phase.noConfusion
  have placed := kept.placed call
  rw [was] at placed
  cases point with
  | entering =>
    cases stepped
    refine kept.move running (placed_resume fun phase goes => ?_) rfl rfl
    obtain ⟨workspace, -, same⟩ := Except.bind_ok.mp goes
    cases same
    trivial
  | selecting workspace =>
    cases stepped
    refine kept.move running (placed_resume fun phase goes => ?_) rfl rfl
    obtain ⟨pr, -, same⟩ := Except.bind_ok.mp goes
    cases same
    trivial
  | observing target => cases stepped
  | heading target seen => cases stepped
  | comparing target seen headSha =>
    cases stepped
    refine kept.move running (placed_resume fun phase goes => ?_) rfl rfl
    obtain rfl | ⟨result, rfl⟩ := compare_ok goes
    · exact placed
    · trivial
  | appending target seen headSha =>
    dsimp only [checkStep] at stepped
    split at stepped
    · rename_i result after ran
      cases stepped
      obtain records | events := recordObservation_ok ran
      · simp only [Steady, was] at steady
        exact kept.record was steady records rfl
      · exact kept.move running (show Placed (.returned _) from trivial) events rfl
    · rename_i error after ran
      cases stepped
      exact kept.move running (show Placed (.returned _) from trivial)
        (recordObservation_error ran) rfl

omit [Platform] in
theorem placed_gate {db : Db} {workspaceId taskId : String} {point : GatePoint} {phase : Phase}
    (stepped : gateStep db workspaceId taskId point = some phase) : Placed phase := by
  cases point with
  | entering =>
    cases stepped
    refine placed_resume fun phase goes => ?_
    obtain ⟨workspace, -, same⟩ := Except.bind_ok.mp goes
    cases same
    trivial
  | selecting workspace =>
    unfold gateStep at stepped
    dsimp only at stepped
    split at stepped <;> cases stepped <;> trivial
  | heading pr => cases stepped
  | reviewing pr headSha =>
    cases stepped
    trivial
  | concluding pr headSha review =>
    cases stepped
    refine placed_resume fun phase goes => ?_
    obtain ⟨reviewApproved, -, goes⟩ := Except.bind_ok.mp goes
    obtain ⟨ciPassed, -, goes⟩ := Except.bind_ok.mp goes
    cases goes
    trivial

/-- A question to GitHub keeps the invariant, and is asked by a call that has not returned. -/
theorem placed_query {call : Nat} {answer : Answer} {phase : Phase} (kept : Kept s)
    (steady : Steady s (.query call answer))
    (stepped : queryStep s.heads answer (s.phase call) = some phase) :
    Placed phase ∧ ∀ outcome, s.phase call ≠ .returned outcome := by
  have placed := kept.placed call
  cases was : s.phase call with
  | idle => rw [was] at stepped; cases stepped
  | returned outcome => rw [was] at stepped; cases stepped
  | checking signal arguments point =>
    simp only [Steady, was] at steady
    rw [was] at stepped placed
    refine ⟨?_, fun outcome => Phase.noConfusion⟩
    cases point with
    | observing target =>
      cases stepped
      refine placed_resume fun phase goes => ?_
      obtain ⟨seen, observed, same⟩ := Except.bind_ok.mp goes
      cases same
      exact (observe_pr observed).1
    | heading target seen =>
      dsimp only [queryStep] at stepped
      split at stepped
      · rename_i honest
        cases stepped
        refine placed_resume fun phase goes => ?_
        obtain ⟨headSha, asked, same⟩ := Except.bind_ok.mp goes
        cases same
        refine ⟨placed, fun positive => ?_⟩
        have current : headSha = s.heads target.pr := by
          simpa [truthful, asked] using honest
        rw [current, steady positive]
      · cases stepped
    | _ => cases stepped
  | gating workspaceId taskId point =>
    rw [was] at stepped
    refine ⟨?_, fun outcome => Phase.noConfusion⟩
    cases point with
    | heading pr =>
      dsimp only [queryStep] at stepped
      split at stepped
      · split at stepped
        · cases stepped
          trivial
        · split at stepped <;> cases stepped <;> trivial
      · cases stepped
    | _ => cases stepped

/-- What one steady step keeps. -/
theorem kept_step {label : Label} (kept : Kept s) (steady : Steady s label)
    (stepped : step s label = some u) : Kept u := by
  cases label with
  | start call arguments =>
    dsimp only [step] at stepped
    split at stepped
    · rename_i idle
      cases stepped
      have running : ∀ outcome, s.phase call ≠ .returned outcome := by
        intro outcome
        rw [idle]
        exact Phase.noConfusion
      refine kept.move running ?_ rfl rfl
      cases arguments <;> trivial
    · cases stepped
  | proceed call =>
    obtain ⟨⟨work, phase⟩, ran, rfl⟩ := Option.map_eq_some_iff.mp stepped
    cases was : s.phase call with
    | idle => rw [was] at ran; cases ran
    | returned outcome => rw [was] at ran; cases ran
    | checking signal arguments point =>
      rw [was] at ran
      exact kept_check kept was steady ran
    | gating workspaceId taskId point =>
      rw [was] at ran
      obtain ⟨phase, ran, same⟩ := Option.map_eq_some_iff.mp ran
      cases same
      refine kept.move (fun outcome => ?_) (placed_gate ran) rfl rfl
      rw [was]
      exact Phase.noConfusion
  | query call answer =>
    obtain ⟨phase, ran, rfl⟩ := Option.map_eq_some_iff.mp stepped
    obtain ⟨placed, running⟩ := placed_query kept steady ran
    exact kept.move running placed rfl rfl
  | push pr head =>
    cases stepped
    exact kept.same rfl (fun _ _ returned => returned) kept.placed
  | relink tasks =>
    cases stepped
    exact kept.same rfl (fun _ _ returned => returned) kept.placed
  | record row =>
    dsimp only [step] at stepped
    split at stepped
    · rename_i foreign
      obtain ⟨events, inserted, rfl⟩ := Option.map_eq_some_iff.mp stepped
      exact kept.foreign foreign (Table.insert?_rows inserted) rfl
    · cases stepped
  | register workspace =>
    obtain ⟨workspaces, inserted, rfl⟩ := Option.map_eq_some_iff.mp stepped
    exact kept.same rfl (fun _ _ returned => returned) kept.placed

omit [Platform] in
/-- A phase that a step has changed is the one that the step has set. -/
theorem eq_of_update {phases : Nat → Phase} {stepping call : Nat} {phase after : Phase}
    (before : phases call ≠ after) (now : Function.update phases stepping phase call = after) :
    call = stepping ∧ phase = after := by
  by_cases same : call = stepping
  · subst same
    rw [Function.update_self] at now
    exact ⟨rfl, now⟩
  · rw [Function.update_of_ne same] at now
    exact absurd now before

omit [Platform] in
/-- Only the last step of the gate answers that the task is ready. -/
theorem gateStep_ready {db : Db} {workspaceId taskId : String} {point : GatePoint}
    {result : MergeGateResult} (ready : result.ready = true)
    (stepped : gateStep db workspaceId taskId point = some (.returned (.gated result))) :
    ∃ pr headSha review, point = .concluding pr headSha review ∧
      gateCheck .review pr headSha review = .ok result.reviewApproved ∧
      gateCheck .ci pr headSha (latest db workspaceId taskId .ci) = .ok result.ciPassed ∧
      result.workspaceId = workspaceId ∧ result.taskId = taskId ∧
      result.hasPr = .passed "pr" pr ∧ result.currentHead = .passed "head_sha" headSha := by
  cases point with
  | entering =>
    dsimp only [gateStep] at stepped
    cases known : knownWorkspace db workspaceId <;> rw [known] at stepped <;> cases stepped
  | selecting workspace =>
    dsimp only [gateStep] at stepped
    split at stepped
    · cases stepped
      cases ready
    · cases stepped
  | heading pr => cases stepped
  | reviewing pr headSha => cases stepped
  | concluding pr headSha review =>
    dsimp only [gateStep] at stepped
    cases reviewed : gateCheck .review pr headSha review with
    | error e => rw [reviewed] at stepped; cases stepped
    | ok reviewApproved =>
      rw [reviewed] at stepped
      cases checked : gateCheck .ci pr headSha (latest db workspaceId taskId .ci) with
      | error e => rw [checked] at stepped; cases stepped
      | ok ciPassed =>
        rw [checked] at stepped
        cases stepped
        exact ⟨pr, headSha, review, rfl, reviewed, checked, rfl, rfl, rfl, rfl⟩

/-- A statement of a check returns no answer of the gate. -/
theorem checkStep_not_gated {signal : Signal} {arguments : CheckArguments} {point : CheckPoint}
    {work after : Work Db} {result : MergeGateResult} :
    checkStep work signal arguments point ≠ some (after, .returned (.gated result)) := by
  intro stepped
  cases point with
  | entering =>
    dsimp only [checkStep] at stepped
    cases known : knownWorkspace work.store arguments.workspaceId <;> rw [known] at stepped <;>
      cases stepped
  | selecting workspace =>
    dsimp only [checkStep] at stepped
    cases resolved : resolvePr signal arguments
      (findTask work.store arguments.workspaceId arguments.taskId) <;>
      rw [resolved] at stepped <;> cases stepped
  | observing target => cases stepped
  | heading target seen => cases stepped
  | comparing target seen headSha =>
    dsimp only [checkStep] at stepped
    cases compared : compare work.store signal arguments target seen headSha with
    | error e => rw [compared] at stepped; cases stepped
    | ok phase =>
      rw [compared] at stepped
      obtain rfl | ⟨seen, rfl⟩ := compare_ok compared <;> cases stepped
  | appending target seen headSha =>
    dsimp only [checkStep] at stepped
    split at stepped <;> cases stepped

omit [Platform] in
/-- No answer to a command makes the gate ready. -/
theorem queryStep_not_ready {heads : String → String} {answer : Answer} {phase : Phase}
    {result : MergeGateResult} (ready : result.ready = true) :
    queryStep heads answer phase ≠ some (.returned (.gated result)) := by
  intro stepped
  cases phase with
  | idle => cases stepped
  | returned outcome => cases stepped
  | checking signal arguments point =>
    cases point with
    | observing target =>
      dsimp only [queryStep] at stepped
      cases observed : signal.observe target.pr (heads target.pr) answer <;>
        rw [observed] at stepped <;> cases stepped
    | heading target seen =>
      dsimp only [queryStep] at stepped
      split at stepped
      · cases asked : queryPrHeadSha answer <;> rw [asked] at stepped <;> cases stepped
      · cases stepped
    | _ => cases stepped
  | gating workspaceId taskId point =>
    cases point with
    | heading pr =>
      dsimp only [queryStep] at stepped
      split at stepped
      · split at stepped
        · cases stepped
        · split at stepped
          · cases stepped
            cases ready
          · cases stepped
      · cases stepped
    | _ => cases stepped

/-- The step that answers ready. -/
theorem ready_step {label : Label} {call : Nat} {result : MergeGateResult}
    (stepped : step s label = some u) (before : s.phase call ≠ .returned (.gated result))
    (after : u.phase call = .returned (.gated result)) (ready : result.ready = true) :
    ∃ workspaceId taskId point, label = .proceed call ∧
      s.phase call = .gating workspaceId taskId point ∧ u.db = s.db ∧
      gateStep s.db workspaceId taskId point = some (.returned (.gated result)) := by
  cases label with
  | start stepping arguments =>
    dsimp only [step] at stepped
    split at stepped
    · cases stepped
      obtain ⟨-, begun⟩ := eq_of_update before after
      cases arguments <;> cases begun
    · cases stepped
  | proceed stepping =>
    obtain ⟨⟨work, phase⟩, ran, rfl⟩ := Option.map_eq_some_iff.mp stepped
    obtain ⟨rfl, rfl⟩ := eq_of_update before after
    cases was : s.phase call with
    | idle => rw [was] at ran; cases ran
    | returned outcome => rw [was] at ran; cases ran
    | checking signal arguments point =>
      rw [was] at ran
      exact absurd ran checkStep_not_gated
    | gating workspaceId taskId point =>
      rw [was] at ran
      obtain ⟨phase, ran, same⟩ := Option.map_eq_some_iff.mp ran
      cases same
      exact ⟨workspaceId, taskId, point, rfl, rfl, rfl, ran⟩
  | query stepping answer =>
    obtain ⟨phase, ran, rfl⟩ := Option.map_eq_some_iff.mp stepped
    obtain ⟨-, rfl⟩ := eq_of_update before after
    exact absurd ran (queryStep_not_ready ready)
  | push pr head =>
    cases stepped
    exact absurd after before
  | relink tasks =>
    cases stepped
    exact absurd after before
  | record row =>
    dsimp only [step] at stepped
    split at stepped
    · obtain ⟨events, inserted, rfl⟩ := Option.map_eq_some_iff.mp stepped
      exact absurd after before
    · cases stepped
  | register workspace =>
    obtain ⟨workspaces, inserted, rfl⟩ := Option.map_eq_some_iff.mp stepped
    exact absurd after before

omit [Platform] in
/-- A row that the gate has accepted is a positive one with its evidence. -/
theorem Kept.accepted (kept : Kept s) {signal : Signal} {pr headSha : String} {check : GateCheck}
    {workspaceId taskId : String}
    (checked : gateCheck signal pr headSha (latest s.db workspaceId taskId signal) = .ok check)
    (passed : check.isPassed = true) :
    ∃ row, lastRecorded s.db workspaceId taskId signal = some row ∧
      row.eventType = signal.eventType .positive ∧ Evidence s signal row pr headSha := by
  obtain ⟨row, found, type, states⟩ := gateCheck_passed checked passed
  rw [latest_eq_lastRecorded kept.ordered] at found
  obtain ⟨otherPr, otherHead, evidence⟩ := kept.evident signal row (lastRecorded_mem found) type
  obtain ⟨rfl, rfl⟩ := states.unique evidence.states
  exact ⟨row, found, type, evidence⟩

/-- The step lemma of the gate. -/
theorem backed_step {label : Label} {call : Nat} {result : MergeGateResult} (kept : Kept s)
    (steady : Steady s label) (stepped : step s label = some u)
    (before : s.phase call ≠ .returned (.gated result))
    (after : u.phase call = .returned (.gated result)) (ready : result.ready = true) :
    Backed u result := by
  have later := kept_step kept steady stepped
  obtain ⟨workspaceId, taskId, point, rfl, was, same, answered⟩ :=
    ready_step stepped before after ready
  obtain ⟨pr, headSha, review, rfl, reviewed, checked, workspace, task, hasPr, currentHead⟩ :=
    gateStep_ready ready answered
  simp only [Steady, was] at steady
  simp only [MergeGateResult.ready, Bool.and_eq_true] at ready
  obtain ⟨⟨-, approved⟩, passed⟩ := ready
  rw [← steady, ← same] at reviewed
  rw [← same] at checked
  refine ⟨pr, headSha, hasPr, currentHead, fun signal => ?_⟩
  rw [workspace, task]
  cases signal with
  | ci => exact later.accepted checked passed
  | review => exact later.accepted reviewed approved

omit [Platform] in
theorem Initial.kept (initial : Initial s) : Kept s where
  evident signal row member type := by
    have kind := not_isRow_of_foreign (initial.foreign row member) signal
    rw [isRow_eventType signal type] at kind
    cases kind
  ordered workspaceId taskId signal := by
    have none : rowsOf s.db workspaceId taskId signal = [] := by
      refine List.eq_nil_iff_forall_not_mem.mpr fun row member => ?_
      obtain ⟨stored, -, -, kind⟩ := mem_rowsOf.mp member
      rw [not_isRow_of_foreign (initial.foreign row stored) signal] at kind
      cases kind
    rw [none]
    exact .nil
  placed call := by
    rw [initial.idle call]
    trivial

/-- The run lemma. -/
theorem kept_of_run (initial : Initial s) (run : calls.Reaches Steady s u) : Kept u :=
  run.invariant (fun _ _ _ kept steady stepped => kept_step kept steady stepped) initial.kept

/-- **The merge gate.** In every steady run each positive row has its evidence, and a gate that answers
ready is backed by the last rows of both kinds. -/
theorem merge_gate_sound (initial : Initial s) (run : calls.Reaches Steady s u) :
    Evident u ∧ ∀ label next, calls.step u label = some next → Steady u label →
      ∀ call result, u.phase call ≠ .returned (.gated result) →
        next.phase call = .returned (.gated result) → result.ready = true → Backed next result := by
  have kept := kept_of_run initial run
  refine ⟨kept.evident, fun label next stepped steady call result before after ready => ?_⟩
  exact backed_step kept steady stepped before after ready

end Steps

namespace Sample

open Coordinate.Sample

def url : String := "https://github.com/o/r/pull/1"

/-- One task with a pull request, whose head is `A`. -/
def start : State where
  work := { initialWork with store := { Db.empty with
    workspaces := tableOf { id := "w", path := "/w", harnessRoot := "/w" }
    tasks := tableOf { workspaceId := "w", taskId := "t", pr := some url } } }
  phase _ := .idle
  heads _ := "A"

theorem start_initial : Initial start := ⟨fun _ member => (by cases member), fun _ => rfl⟩

def checked : Answer :=
  .completed ⟨0, .value (.arr [.obj [("name", .str "build"), ("bucket", .str "pass")]]), ""⟩

def approved : Answer := .completed ⟨0, .value (.obj [("reviewDecision", .str "APPROVED")]), ""⟩

def headed (head : String) : Answer :=
  .completed ⟨0, .value (.obj [("headRefOid", .str head)]), ""⟩

def arguments : CheckArguments := { workspaceId := "w", taskId := "t" }

/-- A check with a step of other programs before its second question. -/
def checking (call : Nat) (begin : Call) (answer : Answer) (between : List Label) (head : String) :
    List Label :=
  [.start call begin, .proceed call, .proceed call, .query call answer] ++ between ++
    [.query call (headed head), .proceed call, .proceed call]

/-- The steps that are steady. -/
def passes (s : State) : Label → Bool
  | .query call _ =>
    match s.phase call with
    | .checking _ _ (.heading target seen) =>
      seen.verdict ≠ .positive || s.heads target.pr = seen.head
    | _ => true
  | .proceed call =>
    match s.phase call with
    | .checking signal arguments (.appending ..) =>
      (rowsOf s.db arguments.workspaceId arguments.taskId signal).all fun row =>
        row.createdAt ≤ now s.work.tick
    | .gating workspaceId taskId (.concluding _ _ review) =>
      latest s.db workspaceId taskId .review = review
    | _ => true
  | _ => true

theorem steady_of_passes (s : State) (label : Label) (passed : passes s label = true) :
    Steady s label := by
  cases label with
  | query call answer =>
    simp only [passes] at passed
    simp only [Steady]
    split
    · rename_i target seen was
      rw [was] at passed
      simpa [imp_iff_not_or] using passed
    · trivial
  | proceed call =>
    simp only [passes] at passed
    simp only [Steady]
    split
    · rename_i was
      rw [was] at passed
      simpa using passed
    · rename_i was
      rw [was] at passed
      simpa using passed
    · trivial
  | _ => trivial

/-- Both checks on one head, and the gate up to its last statement. -/
def backed : List Label :=
  checking 0 (checkCi arguments) checked [] "A" ++
    checking 1 (checkPrReview arguments) approved [] "A" ++
    [.start 2 (checkMergeGate "w" "t"), .proceed 2, .proceed 2, .query 2 (headed "A"), .proceed 2]

/-- The gate answers ready in its next step. -/
def concludes (s : State) : Bool :=
  passes s (.proceed 2) && s.phase 2 matches .gating _ _ (.concluding ..) &&
    (calls.step s (.proceed 2)).any fun next =>
      match next.phase 2 with
      | .returned (.gated result) => result.ready
      | _ => false

theorem gate_backed : ∃ u next result, calls.Reaches Steady start u ∧ Evident u ∧
    calls.step u (.proceed 2) = some next ∧ next.phase 2 = .returned (.gated result) ∧
    result.ready = true ∧ Backed next result := by
  obtain ⟨u, run, concluded⟩ : ∃ u, calls.Reaches Steady start u ∧ concludes u = true :=
    @Machine.exists_reaches _ _ _ _ _ passes _ steady_of_passes backed (by decide +kernel)
  obtain ⟨evident, backed⟩ := merge_gate_sound start_initial run
  simp only [concludes, Bool.and_eq_true, Option.any_eq_true] at concluded
  obtain ⟨⟨steady, was⟩, next, stepped, answered⟩ := concluded
  cases returned : next.phase 2 with
  | returned outcome =>
    cases outcome with
    | gated result =>
      rw [returned] at answered
      refine ⟨u, next, result, run, evident, stepped, returned, answered, ?_⟩
      refine backed _ next stepped (steady_of_passes _ _ steady) 2 result ?_ returned answered
      intro before
      rw [before] at was
      cases was
    | _ => rw [returned] at answered; cases answered
  | _ => rw [returned] at answered; cases answered

/-- A push between the two questions of the CI check, then an approval and the gate. -/
def pushed : List Label :=
  checking 0 (checkCi arguments) checked [.push url "B"] "B" ++
    checking 1 (checkPrReview arguments) approved [] "B" ++
    [.start 2 (checkMergeGate "w" "t"), .proceed 2, .proceed 2, .query 2 (headed "B"), .proceed 2]

/-- The calls of the run. -/
def owner : Label → Nat
  | .start call _ => call
  | .proceed call => call
  | .query call _ => call
  | _ => 0

theorem phase_of_run {u : State}
    (run : calls.Reaches (fun _ label => owner label < 3) start u) (call : Nat) (other : 3 ≤ call) :
    u.phase call = .idle := by
  refine run.invariant (P := fun s => s.phase call = .idle) (fun s label u idle own stepped => ?_) rfl
  have apart : ∀ owned, owned < 3 → call ≠ owned := fun owned bound => by omega
  cases label with
  | start stepping begin =>
    dsimp only [calls, step] at stepped
    split at stepped
    · cases stepped
      exact (Function.update_of_ne (apart _ own) _ _).trans idle
    · cases stepped
  | proceed stepping =>
    obtain ⟨⟨work, phase⟩, -, rfl⟩ := Option.map_eq_some_iff.mp stepped
    exact (Function.update_of_ne (apart _ own) _ _).trans idle
  | query stepping answer =>
    obtain ⟨phase, -, rfl⟩ := Option.map_eq_some_iff.mp stepped
    exact (Function.update_of_ne (apart _ own) _ _).trans idle
  | push pr head => cases stepped; exact idle
  | relink tasks => cases stepped; exact idle
  | record row =>
    dsimp only [calls, step] at stepped
    split at stepped
    · obtain ⟨events, -, rfl⟩ := Option.map_eq_some_iff.mp stepped
      exact idle
    · cases stepped
  | register workspace =>
    obtain ⟨workspaces, -, rfl⟩ := Option.map_eq_some_iff.mp stepped
    exact idle

/-- The head on which a CI check that has returned saw its checks. -/
def seenOn : Phase → Option String
  | .returned (.observed .ci result) => some result.seen.head
  | _ => none

theorem no_evidence {s : State} {row : EventRow} {pr : String}
    (idle : ∀ call, 3 ≤ call → s.phase call = .idle)
    (seen : ∀ call < 3, seenOn (s.phase call) ≠ some "B") : ¬ Evidence s .ci row pr "B" := by
  intro evidence
  obtain ⟨call, result, returned, -, -, -, -, head⟩ := evidence.observed
  by_cases bound : call < 3
  · apply seen call bound
    rw [returned, seenOn, head]
  · rw [idle call (by omega)] at returned
    cases returned

def statedHead (row : EventRow) : Json :=
  match row.payloadJson with
  | .value payload => payload.get "head_sha"
  | _ => .null

theorem statedHead_eq {row : EventRow} {pr head : String} (states : States row pr head) :
    statedHead row = .str head := by
  obtain ⟨payload, stored, -, -, stated⟩ := states.readable
  rw [statedHead, stored]
  exact stated

/-- The CI row states a head on which nothing was seen, and the gate answers ready for it. -/
def misled (u : State) : Bool :=
  (List.range 3).all (fun call => seenOn (u.phase call) ≠ some "B") &&
    (u.db.events.rows.any fun row => row.eventType = "ci.passed" && statedHead row = .str "B") &&
    match u.phase 2 with
    | .returned (.gated result) => result.ready && result.currentHead = .passed "head_sha" "B"
    | _ => false

theorem gate_misled : ∃ u next result, calls.Reaches Machine.anyStep start u ∧
    calls.step u (.proceed 2) = some next ∧ u.phase 2 ≠ .returned (.gated result) ∧
    next.phase 2 = .returned (.gated result) ∧ result.ready = true ∧ ¬ Evident next ∧
    ¬ Backed next result := by
  obtain ⟨u, run, last⟩ : ∃ u, calls.Reaches (fun _ label => owner label < 3) start u ∧
      ((u.phase 2 matches .gating ..) && (calls.step u (.proceed 2)).any misled) = true :=
    @Machine.exists_reaches _ _ _ _ _ (fun _ label => owner label < 3) _
      (fun _ _ => of_decide_eq_true) pushed (by decide +kernel)
  simp only [Bool.and_eq_true, Option.any_eq_true] at last
  obtain ⟨was, next, stepped, checked⟩ := last
  have idle := phase_of_run (run.tail (.proceed 2) (by decide) stepped)
  simp only [misled, Bool.and_eq_true, List.all_eq_true, List.any_eq_true, List.mem_range,
    decide_eq_true_eq] at checked
  obtain ⟨⟨seen, row, stored, type, stated⟩, answered⟩ := checked
  cases returned : next.phase 2 with
  | returned outcome =>
    cases outcome with
    | gated result =>
      rw [returned] at answered
      simp only [Bool.and_eq_true, decide_eq_true_eq] at answered
      obtain ⟨ready, head⟩ := answered
      have unbacked : ¬ Backed next result := by
        rintro ⟨pr, reported, -, same, rows⟩
        cases head.symm.trans same
        obtain ⟨row, -, -, evidence⟩ := rows .ci
        exact no_evidence idle seen evidence
      refine ⟨u, next, result, run.any, stepped, ?_, returned, ready, ?_, unbacked⟩
      · intro before
        rw [before] at was
        cases was
      · intro evident
        obtain ⟨pr, head, evidence⟩ := evident .ci row stored type
        cases stated.symm.trans (statedHead_eq evidence.states)
        exact no_evidence idle seen evidence
    | _ => rw [returned] at answered; cases answered
  | _ => rw [returned] at answered; cases answered

end Sample

end Coordinate.MergeGate

import Coordinate.Model.SampleChecklist
import Coordinate.Proofs.MirrorReconcile

/-! # Reconciling keeps what the coordinator has recorded, and converges -/

namespace Coordinate.MirrorReconcile

open Coordinate.Checklist (Rules ItemRules entries validateChecklist rules_iff)

variable [Platform]

section Steps

variable {operations : List SplitOperationRow} {workspaceId taskId : String} {item : Json} {db db' : Db}
  {w w' : Work Db} {s s' : Session Db} {outcome : ItemOutcome} {plan : ItemPlan} {result : AppendEventResult}
  {event : NewEvent}

/-- A connection between two statements that has nothing open. -/
structure Quiet (s : Session Db) : Prop where
  durable : s.durable = s.work.store
  visible : s.visible = s.work.store

omit [Platform] in
theorem quiet_connect (w : Work Db) : Quiet (Session.connect w w.store) := ⟨rfl, rfl⟩

/-- The row of a task is that of a plan, and the other rows are as they were. -/
structure Places (workspaceId taskId : String) (plan : ItemPlan) (db db' : Db) : Prop where
  placed : findTask db' workspaceId taskId = some plan.row
  others : ∀ workspace task, ¬ (workspace = workspaceId ∧ task = taskId) →
    findTask db' workspace task = findTask db workspace task

omit [Platform] in
theorem findTask_congr (same : db.tasks = db'.tasks) (workspaceId taskId : String) :
    findTask db workspaceId taskId = findTask db' workspaceId taskId := by
  rw [findTask, findTask, same]

theorem tasks_appendEvent (ran : (appendEvent event).run w = .ok result w') : w'.store.tasks = w.store.tasks :=
  Txn.Keeps.of_ok (keeps_appendEvent event fun _ _ => rfl) ran

/-- An unchanged item has its row. -/
theorem placed_of_unchanged (ran : planItem operations workspaceId taskId item db = .ok plan)
    (same : plan.action = .unchanged) : findTask db workspaceId taskId = some plan.row := by
  cases found : findTask db workspaceId taskId with
  | none =>
    obtain ⟨mirror, new, -, -, rfl⟩ := (planItem_none found).mp ran
    cases same
  | some row =>
    obtain ⟨mirror, -, ⟨-, rfl⟩ | ⟨-, new, -, rfl⟩⟩ := (planItem_some found).mp ran
    · rfl
    · cases same

theorem places_of_unchanged (ran : planItem operations workspaceId taskId item db = .ok plan)
    (same : plan.action = .unchanged) : Places workspaceId taskId plan db db :=
  ⟨placed_of_unchanged ran same, fun _ _ _ => rfl⟩

theorem places_of_write {tasks : Table taskSchema} (ran : planItem operations workspaceId taskId item db = .ok plan)
    (put : putTask plan.row db.tasks = some tasks) (same : db'.tasks = tasks) : Places workspaceId taskId plan db db' := by
  obtain ⟨own, own'⟩ := isTask_iff.mp (isTask_plan ran)
  refine ⟨?_, fun workspace task apart => ?_⟩
  · rw [findTask, same, ← own, ← own']
    exact find?_putTask put
  · rw [findTask, same]
    refine find?_putTask_other put (Bool.eq_false_iff.mpr fun same => apart ?_)
    obtain ⟨rfl, rfl⟩ := isTask_iff.mp same
    exact ⟨own, own'⟩

/-- What a committed upsert of an item does. -/
theorem reconcileItem_ok (quiet : Quiet s)
    (ran : (reconcileItem operations workspaceId taskId item).run s = .ok outcome s') :
    ∃ plan, planItem operations workspaceId taskId item s.work.store = .ok plan ∧
      Places workspaceId taskId plan s.work.store s'.work.store ∧ Quiet s' := by
  simp only [reconcileItem, Tx.bind_ok, Tx.query_run, Tx.orRaise_ok, EStateM.Result.ok.injEq] at ran
  obtain ⟨_, _, ⟨rfl, rfl⟩, plan, _, ⟨planned, rfl⟩, ran⟩ := ran
  rw [quiet.visible] at planned
  refine ⟨plan, planned, ?_⟩
  split at ran
  · rename_i same
    simp only [Tx.pure_run, EStateM.Result.ok.injEq] at ran
    obtain ⟨-, rfl⟩ := ran
    exact ⟨places_of_unchanged planned same, quiet⟩
  · simp only [Tx.bind_ok, Tx.within_ok, Tx.commit_run, EStateM.Result.ok.injEq, appendEventAndCommit] at ran
    obtain ⟨_, _, ⟨w, wrote, rfl⟩, _, _, ⟨-, rfl⟩, _, _, ⟨result, _, ⟨w', appended, rfl⟩, ran⟩, ran'⟩ := ran
    rw [writeTask_run] at wrote
    split at wrote
    · rename_i tasks put
      cases wrote
      have kept := tasks_appendEvent appended
      have places : Places workspaceId taskId plan s.work.store w'.store := places_of_write planned put kept
      split at ran
      · simp only [Tx.bind_ok, Tx.commit_run, Tx.pure_run, EStateM.Result.ok.injEq] at ran ran'
        obtain ⟨_, _, ⟨-, rfl⟩, rfl, rfl⟩ := ran
        obtain ⟨-, rfl⟩ := ran'
        exact ⟨places, rfl, rfl⟩
      · rename_i existing
        simp only [Tx.pure_run, EStateM.Result.ok.injEq] at ran ran'
        obtain ⟨_, _, ⟨-, rfl⟩, rfl, rfl⟩ := ran
        obtain ⟨-, rfl⟩ := ran'
        refine ⟨places, ?_, rfl⟩
        cases appendEvent_ok appended with
        | created events inserted store => exact absurd rfl existing
        | existing row member key store => exact store.symm
    · cases wrote

/-- What an upsert of an item does inside a transaction. -/
theorem reconcileItemInside_ok (ran : (reconcileItemInside operations workspaceId taskId item).run w = .ok outcome w') :
    ∃ plan, planItem operations workspaceId taskId item w.store = .ok plan ∧
      Places workspaceId taskId plan w.store w'.store := by
  simp only [reconcileItemInside, Txn.bind_ok, Txn.read_run, Txn.orRaise_ok, EStateM.Result.ok.injEq] at ran
  obtain ⟨_, _, ⟨rfl, rfl⟩, plan, _, ⟨planned, rfl⟩, ran⟩ := ran
  refine ⟨plan, planned, ?_⟩
  split at ran
  · rename_i same
    simp only [Txn.pure_run, EStateM.Result.ok.injEq] at ran
    obtain ⟨-, rfl⟩ := ran
    exact places_of_unchanged planned same
  · simp only [Txn.bind_ok, Txn.pure_run, EStateM.Result.ok.injEq] at ran
    obtain ⟨_, middle, wrote, result, _, appended, -, rfl⟩ := ran
    rw [writeTask_run] at wrote
    split at wrote
    · rename_i tasks put
      cases wrote
      exact places_of_write planned put (tasks_appendEvent appended)
    · cases wrote

end Steps

section Runs

variable {operations : List SplitOperationRow} {workspaceId taskId key : String} {item : Json} {items : List Json}
  {reading : Reading} {task : Option String} {w w' : Work Db} {s s' : Session Db} {tally after : Tally}
  {db db' db'' : Db} {targets others : List (String × Json)} {result : ReconcileResult}

omit [Platform] in
/-- The items that are not skipped. -/
def targetsOf (items : List Json) : List (String × Json) :=
  items.filterMap fun item => (identifier? item).map fun taskId => (taskId, item)

/-- The rows of some tasks are those of the plans that the first state gives, and the others are as they were. -/
structure Projects (operations : List SplitOperationRow) (workspaceId : String) (targets : List (String × Json))
    (db db' : Db) : Prop where
  placed : ∀ target ∈ targets, ∃ plan, planItem operations workspaceId target.1 target.2 db = .ok plan ∧
    findTask db' workspaceId target.1 = some plan.row
  others : ∀ workspace task, ¬ (workspace = workspaceId ∧ task ∈ targets.map Prod.fst) →
    findTask db' workspace task = findTask db workspace task

theorem projects_nil (same : db.tasks = db'.tasks) : Projects operations workspaceId [] db db' :=
  ⟨List.forall_mem_nil _, fun _ _ _ => findTask_congr same.symm _ _⟩

/-- One more task, which is not among the others. -/
theorem Projects.cons {plan : ItemPlan} (planned : planItem operations workspaceId taskId item db = .ok plan)
    (places : Places workspaceId taskId plan db db') (fresh : taskId ∉ targets.map Prod.fst)
    (rest : Projects operations workspaceId targets db' db'') :
    Projects operations workspaceId ((taskId, item) :: targets) db db'' := by
  refine ⟨fun target member => ?_, fun workspace task apart => ?_⟩
  · rcases List.mem_cons.mp member with rfl | later
    · refine ⟨plan, planned, ?_⟩
      rw [rest.others _ _ fun own => fresh own.2]
      exact places.placed
    · obtain ⟨plan', planned', placed⟩ := rest.placed target later
      refine ⟨plan', ?_, placed⟩
      rw [← planned']
      refine planItem_congr (places.others _ _ ?_).symm
      rintro ⟨-, rfl⟩
      exact fresh (List.mem_map_of_mem later)
  · rw [rest.others, places.others]
    · rintro ⟨rfl, rfl⟩
      exact apart ⟨rfl, List.mem_cons_self⟩
    · rintro ⟨rfl, later⟩
      exact apart ⟨rfl, List.mem_cons_of_mem _ later⟩

/-- The rows after a projection do not depend on the order of the tasks. -/
theorem Projects.unique (first : Projects operations workspaceId targets db db')
    (second : Projects operations workspaceId others db db'') (same : ∀ target, target ∈ targets ↔ target ∈ others)
    (workspace task : String) : findTask db' workspace task = findTask db'' workspace task := by
  by_cases own : workspace = workspaceId ∧ task ∈ targets.map Prod.fst
  · obtain ⟨rfl, named⟩ := own
    obtain ⟨target, member, rfl⟩ := List.mem_map.mp named
    obtain ⟨plan, planned, placed⟩ := first.placed target member
    obtain ⟨plan', planned', placed'⟩ := second.placed target ((same target).mp member)
    rw [planned] at planned'
    cases planned'
    rw [placed, placed']
  · rw [first.others _ _ own, second.others]
    rintro ⟨rfl, named⟩
    obtain ⟨target, member, rfl⟩ := List.mem_map.mp named
    exact own ⟨rfl, List.mem_map_of_mem ((same target).mpr member)⟩

omit [Platform] in
theorem targetsOf_cons : targetsOf (item :: items) =
    (match identifier? item with
      | none => targetsOf items
      | some taskId => (taskId, item) :: targetsOf items) := by
  unfold targetsOf
  rw [List.filterMap_cons]
  cases identifier? item <;> rfl

/-- What the loop of a full run does. -/
theorem reconcileItems_ok (quiet : Quiet s) (distinct : ((targetsOf items).map Prod.fst).Nodup)
    (ran : (reconcileItems operations workspaceId tally items).run s = .ok after s') :
    Projects operations workspaceId (targetsOf items) s.work.store s'.work.store ∧ Quiet s' := by
  induction items generalizing s tally with
  | nil =>
    simp only [reconcileItems, Tx.pure_run, EStateM.Result.ok.injEq] at ran
    obtain ⟨-, rfl⟩ := ran
    exact ⟨projects_nil rfl, quiet⟩
  | cons item rest ih =>
    rw [targetsOf_cons] at distinct ⊢
    unfold reconcileItems at ran
    cases named : identifier? item with
    | none =>
      rw [named] at ran distinct
      exact ih quiet distinct ran
    | some taskId =>
      rw [named] at ran distinct
      simp only [Tx.bind_ok] at ran
      obtain ⟨outcome, middle, first, ran⟩ := ran
      obtain ⟨plan, planned, places, quiet'⟩ := reconcileItem_ok quiet first
      obtain ⟨fresh, distinct⟩ := List.nodup_cons.mp distinct
      obtain ⟨projects, quiet''⟩ := ih quiet' distinct ran
      exact ⟨projects.cons planned places fresh, quiet''⟩

/-- The key of the event of a completed run. -/
def summaryKey (workspaceId : String) (reading : Reading) (items : List Json) : Option String → String
  | none => s!"{workspaceId}:reconcile:{stateFingerprint reading.state items}"
  | some taskId => s!"{workspaceId}:reconcile:{taskId}:{stateFingerprint reading.state items}"

theorem summaryKey_nonempty : summaryKey workspaceId reading items task ≠ "" := by
  intro empty
  have length : (summaryKey workspaceId reading items task).length = 0 := by rw [empty, String.length_empty]
  cases task with
  | none =>
    simp only [summaryKey, String.length_append] at length
    have middle : (toString ":reconcile:").length = 11 := by decide
    omega
  | some taskId =>
    simp only [summaryKey, String.length_append] at length
    have middle : (toString ":reconcile:").length = 11 := by decide
    omega

/-- The event of a completed run is stored. -/
def Recorded (key : String) (db : Db) : Prop := ∃ row ∈ db.events, row.idempotencyKey = key

theorem key_of_summary (workspaceId : String) (reading : Reading) (items : List Json) (task : Option String)
    (tally : Tally) (eventId : String) (createdAt : Nat) :
    ((summaryEvent workspaceId reading items task tally).toRow eventId createdAt).idempotencyKey =
      summaryKey workspaceId reading items task := by
  cases task with
  | none => exact NewEvent.toRow_key _ eventId createdAt rfl summaryKey_nonempty
  | some taskId => exact NewEvent.toRow_key _ eventId createdAt rfl summaryKey_nonempty

theorem recorded_of_append {summary : AppendEventResult}
    (ran : (appendEvent (summaryEvent workspaceId reading items task tally)).run w = .ok summary w') :
    Recorded (summaryKey workspaceId reading items task) w'.store := by
  have appended := appendEvent_ok ran
  refine ⟨summary.row, appended.mem, ?_⟩
  cases appended with
  | created events inserted store => exact key_of_summary ..
  | existing row member key store => exact key.trans (key_of_summary ..)

/-- A summary that is recorded is not appended again. -/
theorem append_recorded (tally : Tally) (recorded : Recorded (summaryKey workspaceId reading items task) w.store) :
    ∃ row, (appendEvent (summaryEvent workspaceId reading items task tally)).run w =
      .ok ⟨row, false⟩ ⟨w.store, w.tick + 1, w.draws + 1⟩ := by
  obtain ⟨row, member, same⟩ := recorded
  have key := key_of_summary workspaceId reading items task tally (Platform.uuid4 w.draws) (now w.tick)
  rw [← key] at same
  have found := findEventByKey_eq_some.mpr ⟨member, same⟩
  have taken : w.store.events.insert? ((summaryEvent workspaceId reading items task tally).toRow
      (Platform.uuid4 w.draws) (now w.tick)) = none := by
    refine Table.insert?_eq_none_iff.mpr (.inr ⟨row, member, ?_⟩)
    rw [eventSchema, Bool.or_eq_true, decide_eq_true_eq, decide_eq_true_eq]
    exact .inr same
  exact ⟨row, by simp [appendEvent, Txn.bind_run, newUuid, utcNow, taken, found]⟩

/-- What a full run that returns has done. -/
theorem reconcileAll_ok (quiet : Quiet s) (distinct : ((targetsOf items).map Prod.fst).Nodup)
    (ran : (reconcileAll operations workspaceId reading items).run s = .ok result s') :
    Projects operations workspaceId (targetsOf items) s.work.store s'.durable ∧
      Recorded (summaryKey workspaceId reading items none) s'.durable := by
  simp only [reconcileAll, Tx.bind_ok, appendEventAndCommit, Tx.within_ok, Tx.pure_run, EStateM.Result.ok.injEq] at ran
  obtain ⟨tally, middle, looped, summary, _, ⟨summary, _, ⟨w, appended, rfl⟩, ran⟩, -, rfl⟩ := ran
  obtain ⟨projects, quiet'⟩ := reconcileItems_ok quiet distinct looped
  have tasks := tasks_appendEvent appended
  have later : Projects operations workspaceId (targetsOf items) s.work.store w.store := by
    refine ⟨fun target member => ?_, fun workspace task apart => ?_⟩
    · obtain ⟨plan, planned, placed⟩ := projects.placed target member
      exact ⟨plan, planned, (findTask_congr tasks _ _).trans placed⟩
    · exact (findTask_congr tasks _ _).trans (projects.others workspace task apart)
  have recorded := recorded_of_append appended
  split at ran
  · simp only [Tx.bind_ok, Tx.commit_run, Tx.pure_run, EStateM.Result.ok.injEq] at ran
    obtain ⟨_, _, ⟨-, rfl⟩, -, rfl⟩ := ran
    exact ⟨later, recorded⟩
  · rename_i existing
    simp only [Tx.pure_run, EStateM.Result.ok.injEq] at ran
    obtain ⟨-, rfl⟩ := ran
    have same : middle.durable = w.store := by
      cases appendEvent_ok appended with
      | created events inserted store => exact absurd rfl existing
      | existing row member key store => exact quiet'.durable.trans store.symm
    change Projects operations workspaceId (targetsOf items) s.work.store middle.durable ∧
      Recorded (summaryKey workspaceId reading items none) middle.durable
    rw [same]
    exact ⟨later, recorded⟩

/-- What a targeted run that returns has done. -/
theorem reconcileTarget_ok (ran : (reconcileTarget operations workspaceId taskId reading items).run
      (Session.connect w w.store) = .ok result s') :
    ∃ target, (items.filter fun item => item.isObj && item.get "id" = .str taskId) = [target] ∧
      Projects operations workspaceId [(taskId, target)] w.store s'.durable ∧
      Recorded (summaryKey workspaceId reading [target] (some taskId)) s'.durable := by
  unfold reconcileTarget at ran
  split at ran
  · cases ran
  · rename_i target single
    refine ⟨target, single, ?_⟩
    rw [Tx.tryCatch_run, Tx.bind_run, Tx.savepoint_run] at ran
    cases outcome : (reconcileTargetInside operations workspaceId taskId reading target).run w with
    | error e w' =>
      rw [show (Session.connect w w.store).work = w from rfl, outcome] at ran
      cases ran
    | ok value w' =>
      rw [show (Session.connect w w.store).work = w from rfl, outcome] at ran
      cases ran
      simp only [reconcileTargetInside, Txn.bind_ok, Txn.pure_run, EStateM.Result.ok.injEq] at outcome
      obtain ⟨done, middle, first, summary, _, appended, -, rfl⟩ := outcome
      obtain ⟨plan, planned, places⟩ := reconcileItemInside_ok first
      have rest : Projects operations workspaceId [] middle.store _ :=
        projects_nil (tasks_appendEvent appended).symm
      exact ⟨Projects.cons planned places List.not_mem_nil rest, recorded_of_append appended⟩
  · cases ran

/-- A targeted run that raises leaves the store as it was. -/
theorem reconcileTarget_error {e : Exn} (ran : (reconcileTarget operations workspaceId taskId reading items).run
      (Session.connect w w.store) = .error e s') : s'.durable = w.store := by
  unfold reconcileTarget at ran
  split at ran
  · cases ran
    rfl
  · rename_i target single
    rw [Tx.tryCatch_run, Tx.bind_run, Tx.savepoint_run] at ran
    cases outcome : (reconcileTargetInside operations workspaceId taskId reading target).run w with
    | error e w' =>
      rw [show (Session.connect w w.store).work = w from rfl, outcome] at ran
      cases ran
      rfl
    | ok value w' =>
      rw [show (Session.connect w w.store).work = w from rfl, outcome] at ran
      cases ran
  · cases ran
    rfl

end Runs

section Again

variable {operations : List SplitOperationRow} {workspaceId taskId key : String} {item : Json} {items : List Json}
  {reading : Reading} {task : Option String} {w w' : Work Db} {s s' : Session Db} {tally : Tally}
  {targets : List (String × Json)} {result : ReconcileResult} {mirror : MirrorValues} {row : TaskMirror}

/-- Every task has the row that its item is merged into. -/
def Still (operations : List SplitOperationRow) (workspaceId : String) (targets : List (String × Json)) (db : Db) :
    Prop :=
  ∀ target ∈ targets, ∃ mirror row, planItem operations workspaceId target.1 target.2 db = .ok ⟨mirror, .unchanged, row⟩

omit [Platform] in
/-- The tally of a run that found every mirror as it is. -/
def unmoved (mirrors : List MirrorValues) : Tally where
  unchanged := mirrors.length
  tasks := mirrors.map fun mirror => (mirror, .unchanged)

omit [Platform] in
theorem unmoved_add (mirrors : List MirrorValues) (mirror : MirrorValues) :
    (unmoved mirrors).add ⟨mirror, .unchanged, false⟩ = unmoved (mirrors ++ [mirror]) := by
  simp [unmoved, Tally.add]

theorem reconcileItem_still (quiet : Quiet s)
    (planned : planItem operations workspaceId taskId item s.work.store = .ok ⟨mirror, .unchanged, row⟩) :
    (reconcileItem operations workspaceId taskId item).run s = .ok ⟨mirror, .unchanged, false⟩ s := by
  rw [reconcileItem, Tx.bind_run, Tx.query_run, quiet.visible, planned]
  rfl

theorem reconcileItems_still (quiet : Quiet s) (still : Still operations workspaceId (targetsOf items) s.work.store)
    (before : List MirrorValues) : ∃ mirrors, mirrors.length = before.length + (targetsOf items).length ∧
      (reconcileItems operations workspaceId (unmoved before) items).run s = .ok (unmoved mirrors) s := by
  induction items generalizing before with
  | nil => exact ⟨before, rfl, rfl⟩
  | cons item rest ih =>
    rw [targetsOf_cons] at still ⊢
    unfold reconcileItems
    cases named : identifier? item with
    | none =>
      rw [named] at still
      exact ih still before
    | some taskId =>
      rw [named] at still
      obtain ⟨mirror, row, planned⟩ := still _ List.mem_cons_self
      obtain ⟨mirrors, length, ran⟩ := ih (fun target member => still target (List.mem_cons_of_mem _ member))
        (before ++ [mirror])
      refine ⟨mirrors, ?_, ?_⟩
      · rw [length, List.length_append, List.length_singleton, List.length_cons]
        omega
      · dsimp only
        rw [Tx.bind_run, reconcileItem_still quiet planned]
        dsimp only
        rw [unmoved_add]
        exact ran

/-- A full run over settled mirrors writes at most its own event. -/
theorem reconcileAll_still (reading : Reading) (still : Still operations workspaceId (targetsOf items) w.store) :
    ∃ mirrors, mirrors.length = (targetsOf items).length ∧
      (reconcileAll operations workspaceId reading items).run (Session.connect w w.store) =
        (do
          let summary ← appendEventAndCommit (summaryEvent workspaceId reading items none (unmoved mirrors))
          return resultOf workspaceId reading (unmoved mirrors) summary.created none :
            DbTx ReconcileResult).run (Session.connect w w.store) := by
  obtain ⟨mirrors, length, ran⟩ := reconcileItems_still (quiet_connect w) still []
  rw [List.length_nil, Nat.zero_add] at length
  refine ⟨mirrors, length, ?_⟩
  rw [reconcileAll, Tx.bind_run, show ({} : Tally) = unmoved [] from rfl, ran]

/-- A full run over settled mirrors whose event is recorded writes nothing. -/
theorem reconcileAll_again (still : Still operations workspaceId (targetsOf items) w.store)
    (recorded : Recorded (summaryKey workspaceId reading items none) w.store) :
    ∃ result s' mirrors, (reconcileAll operations workspaceId reading items).run (Session.connect w w.store) =
        .ok result s' ∧ mirrors.length = (targetsOf items).length ∧ result.tally = unmoved mirrors ∧
      s'.durable = w.store := by
  obtain ⟨mirrors, length, ran⟩ := reconcileAll_still reading still
  obtain ⟨row, appended⟩ := append_recorded (unmoved mirrors) recorded
  have run : (reconcileAll operations workspaceId reading items).run (Session.connect w w.store) =
      .ok (resultOf workspaceId reading (unmoved mirrors) false none)
        ⟨⟨w.store, w.tick + 1, w.draws + 1⟩, w.store, some w.store⟩ := by
    rw [ran, appendEventAndCommit, Tx.bind_run, Tx.bind_run, Tx.within_run,
      show (Session.connect w w.store).work = w from rfl, appended]
    rfl
  exact ⟨_, _, mirrors, run, length, rfl, rfl⟩

/-- A targeted run over a settled mirror. -/
theorem reconcileTargetInside_still {target : Json}
    (planned : planItem operations workspaceId taskId target w.store = .ok ⟨mirror, .unchanged, row⟩) :
    (reconcileTargetInside operations workspaceId taskId reading target).run w =
      (do
        let summary ← appendEvent (summaryEvent workspaceId reading [target] (some taskId) (unmoved [mirror]))
        return resultOf workspaceId reading (unmoved [mirror]) summary.created (some taskId) :
          DbTxn ReconcileResult).run w := by
  have item : (reconcileItemInside operations workspaceId taskId target).run w = .ok ⟨mirror, .unchanged, false⟩ w := by
    rw [reconcileItemInside, Txn.bind_run, Txn.read_run, planned]
    rfl
  rw [reconcileTargetInside, Txn.bind_run, item]
  rfl

theorem reconcileTarget_again {target : Json}
    (single : (items.filter fun item => item.isObj && item.get "id" = .str taskId) = [target])
    (planned : planItem operations workspaceId taskId target w.store = .ok ⟨mirror, .unchanged, row⟩)
    (recorded : Recorded (summaryKey workspaceId reading [target] (some taskId)) w.store) :
    ∃ result s', (reconcileTarget operations workspaceId taskId reading items).run (Session.connect w w.store) =
        .ok result s' ∧ result.tally = unmoved [mirror] ∧ s'.durable = w.store := by
  obtain ⟨row, appended⟩ := append_recorded (unmoved [mirror]) recorded
  have inside : (reconcileTargetInside operations workspaceId taskId reading target).run w =
      .ok (resultOf workspaceId reading (unmoved [mirror]) false (some taskId)) ⟨w.store, w.tick + 1, w.draws + 1⟩ := by
    rw [reconcileTargetInside_still planned, Txn.bind_run, appended]
    rfl
  have run : (reconcileTarget operations workspaceId taskId reading items).run (Session.connect w w.store) =
      .ok (resultOf workspaceId reading (unmoved [mirror]) false (some taskId))
        ⟨⟨w.store, w.tick + 1, w.draws + 1⟩, w.store, none⟩ := by
    unfold reconcileTarget
    rw [single]
    dsimp only
    rw [Tx.tryCatch_run, Tx.bind_run, Tx.savepoint_run, show (Session.connect w w.store).work = w from rfl, inside]
    rfl
  exact ⟨_, _, run, rfl, rfl⟩

/-- A full run over settled mirrors leaves them, whichever way it ends. -/
theorem reconcileAll_anew (still : Still operations workspaceId (targetsOf items) w.store) :
    ((reconcileAll operations workspaceId reading items).run (Session.connect w w.store)).final.settle.store.tasks =
      w.store.tasks := by
  obtain ⟨mirrors, -, ran⟩ := reconcileAll_still reading still
  rw [ran, appendEventAndCommit, Tx.bind_run, Tx.bind_run, Tx.within_run]
  cases appended : (appendEvent (summaryEvent workspaceId reading items none (unmoved mirrors))).run
      (Session.connect w w.store).work with
  | error e w' => rfl
  | ok summary w' =>
    have tasks := tasks_appendEvent appended
    obtain ⟨row, created⟩ := summary
    cases created with
    | true => exact tasks
    | false => rfl

end Again

section Keeping

variable {operations : List SplitOperationRow} {workspaceId taskId : String} {item : Json} {items : List Json}
  {reading : Reading} {db db' base : Db} {targets : List (String × Json)} {plan : ItemPlan}

/-- Every row of a state is still there, with what the coordinator has recorded in it. -/
def Keeps (base db : Db) : Prop := ∀ row ∈ base.tasks, ∃ new ∈ db.tasks, Kept row new

omit [Platform] in
theorem keeps_refl (db : Db) : Keeps db db := fun row member => ⟨row, member, .refl row⟩

omit [Platform] in
theorem Keeps.trans {later : Db} (first : Keeps base db) (second : Keeps db later) : Keeps base later := by
  intro row member
  obtain ⟨middle, member', kept⟩ := first row member
  obtain ⟨new, member'', kept'⟩ := second middle member'
  exact ⟨new, member'', kept.trans kept'⟩

omit [Platform] in
theorem keeps_of_tasks (same : db.tasks = db'.tasks) : Keeps db db' := by
  intro row member
  rw [same] at member
  exact ⟨row, member, .refl row⟩

theorem keeps_of_places (rules : ItemRules item) (planned : planItem operations workspaceId taskId item db = .ok plan)
    (places : Places workspaceId taskId plan db db') : Keeps db db' := by
  intro row member
  by_cases own : row.workspaceId = workspaceId ∧ row.taskId = taskId
  · have found := findTask_eq_some.mpr ⟨member, isTask_iff.mpr own⟩
    exact ⟨plan.row, (findTask_eq_some.mp places.placed).1, kept_plan rules found planned⟩
  · have found := findTask_eq_some.mpr ⟨member, isTask_iff.mpr ⟨rfl, rfl⟩⟩
    rw [← places.others _ _ own] at found
    exact ⟨row, (findTask_eq_some.mp found).1, .refl row⟩

theorem maintains_append (event : NewEvent) :
    Tx.Maintains 0 Eq (Keeps base) (appendEventAndCommit event) := by
  refine Tx.maintains_bind (Tx.maintains_within fun w result w' _ ran kept => ?_) fun result => ?_
  · exact kept.trans (keeps_of_tasks (tasks_appendEvent ran).symm)
  · split
    · exact Tx.maintains_bind (Tx.maintains_commit fun _ => rfl) fun _ => Tx.maintains_pure _
    · exact Tx.maintains_pure _

/-- One item of a full run, whichever way it ends. -/
theorem maintains_reconcileItem (rules : ItemRules item) :
    Tx.Maintains 0 Eq (Keeps base) (reconcileItem operations workspaceId taskId item) := by
  refine Tx.triple_bind (Tx.triple_query_current _) fun planned =>
    Tx.triple_bind (Tx.triple_orRaise id planned) fun plan => ?_
  split
  · exact Tx.triple_pure fun _ before => before.1.1
  · have later : Tx.Maintains 0 Eq (Keeps base) (do
        Tx.commit
        let event ← appendEventAndCommit (mirrorEvent workspaceId plan)
        return ⟨plan.mirror, plan.action, event.created⟩ : DbTx ItemOutcome) :=
      Tx.maintains_bind (Tx.maintains_commit fun _ => rfl) fun _ =>
        Tx.maintains_bind (maintains_append _) fun _ => Tx.maintains_pure _
    refine Tx.triple_bind (Tx.triple_within fun w _ w' _ ran before => ?_) fun _ => later
    obtain ⟨⟨kept, rfl⟩, planned⟩ := before
    rw [writeTask_run] at ran
    split at ran
    · rename_i tasks put
      cases ran
      exact kept.trans (keeps_of_places rules planned (places_of_write planned put rfl))
    · cases ran

theorem maintains_reconcileItems (rules : ∀ item ∈ items, ItemRules item) (tally : Tally) :
    Tx.Maintains 0 Eq (Keeps base) (reconcileItems operations workspaceId tally items) := by
  induction items generalizing tally with
  | nil => exact Tx.maintains_pure _
  | cons item rest ih =>
    have later := ih fun other member => rules other (List.mem_cons_of_mem _ member)
    unfold reconcileItems
    split
    · exact later tally
    · exact Tx.maintains_bind (maintains_reconcileItem (rules item List.mem_cons_self)) fun outcome => later _

theorem maintains_reconcileAll (rules : ∀ item ∈ items, ItemRules item) :
    Tx.Maintains 0 Eq (Keeps base) (reconcileAll operations workspaceId reading items) :=
  Tx.maintains_bind (maintains_reconcileItems rules {}) fun _ =>
    Tx.maintains_bind (maintains_append _) fun _ => Tx.maintains_pure _

/-- The rows after a projection keep what the coordinator has recorded. -/
theorem keeps_of_projects (rules : ∀ target ∈ targets, ItemRules target.2)
    (projects : Projects operations workspaceId targets db db') : Keeps db db' := by
  intro row member
  have found := findTask_eq_some.mpr ⟨member, isTask_iff.mpr ⟨rfl, rfl⟩⟩
  by_cases own : row.workspaceId = workspaceId ∧ row.taskId ∈ targets.map Prod.fst
  · obtain ⟨rfl, named⟩ := own
    obtain ⟨target, targeted, same⟩ := List.mem_map.mp named
    obtain ⟨plan, planned, placed⟩ := projects.placed target targeted
    rw [← same] at found
    exact ⟨plan.row, (findTask_eq_some.mp placed).1, kept_plan (rules target targeted) found planned⟩
  · rw [← projects.others _ _ own] at found
    exact ⟨row, (findTask_eq_some.mp found).1, .refl row⟩

end Keeping

section Checklists

variable {checklist item : Json} {taskId : String} {target : String × Json}

omit [Platform] in
theorem itemsOf_valid (rules : Rules checklist) : itemsOf checklist = .ok (entries checklist) := by
  obtain ⟨items, listed⟩ := rules.listed
  rw [entries, listed]
  unfold itemsOf
  cases found : checklist.field? "items" with
  | none =>
    rw [Json.get, found] at listed
    cases listed
  | some value =>
    rw [Json.get, found, Option.getD_some] at listed
    subst listed
    rfl

omit [Platform] in
theorem mem_targetsOf {items : List Json} : target ∈ targetsOf items ↔
    target.2 ∈ items ∧ identifier? target.2 = some target.1 := by
  obtain ⟨taskId, item⟩ := target
  simp only [targetsOf, List.mem_filterMap, Option.map_eq_some_iff, Prod.mk.injEq]
  constructor
  · rintro ⟨item', member, id, named, rfl, rfl⟩
    exact ⟨member, named⟩
  · rintro ⟨member, named⟩
    exact ⟨item, member, taskId, named, rfl, rfl⟩

omit [Platform] in
theorem identifier?_eq_some : identifier? item = some taskId ↔ item.get "id" = .str taskId ∧ taskId ≠ "" := by
  unfold identifier?
  cases item.get "id" with
  | str text =>
    by_cases empty : text = ""
    · subst empty
      simp [eq_comm]
    · simp only [if_neg empty, Option.some.injEq, Json.str.injEq]
      constructor
      · rintro rfl
        exact ⟨rfl, empty⟩
      · exact And.left
  | _ => simp

omit [Platform] in
/-- The items of a checklist that is read have different identifiers. -/
theorem targets_distinct (rules : Rules checklist) : ((targetsOf (entries checklist)).map Prod.fst).Nodup := by
  have distinct := rules.distinct
  generalize entries checklist = items at distinct
  induction items with
  | nil => exact .nil
  | cons item rest ih =>
    obtain ⟨fresh, distinct⟩ := List.nodup_cons.mp distinct
    rw [targetsOf_cons]
    cases named : identifier? item with
    | none => exact ih distinct
    | some taskId =>
      refine List.nodup_cons.mpr ⟨fun member => fresh ?_, ih distinct⟩
      obtain ⟨target, later, rfl⟩ := List.mem_map.mp member
      obtain ⟨member', named'⟩ := mem_targetsOf.mp later
      have same := (identifier?_eq_some.mp named).1.trans (identifier?_eq_some.mp named').1.symm
      exact List.mem_map.mpr ⟨target.2, member', same.symm⟩

omit [Platform] in
/-- No item of a checklist that is read is skipped. -/
theorem items_of_targets (rules : Rules checklist) :
    (targetsOf (entries checklist)).map Prod.snd = entries checklist := by
  have solid : ∀ item ∈ entries checklist, ∃ taskId, identifier? item = some taskId := by
    intro item member
    have text := (rules.items item member).texts "id" (by decide)
    cases own : item.get "id" with
    | str taskId =>
      refine ⟨taskId, identifier?_eq_some.mpr ⟨own, ?_⟩⟩
      rintro rfl
      rw [own] at text
      exact absurd text (by decide)
    | _ =>
      rw [own] at text
      cases text
  generalize entries checklist = items at solid
  induction items with
  | nil => rfl
  | cons item rest ih =>
    obtain ⟨taskId, named⟩ := solid item List.mem_cons_self
    rw [targetsOf_cons, named, List.map_cons, ih fun other member => solid other (List.mem_cons_of_mem _ member)]

omit [Platform] in
theorem rules_of_target (rules : Rules checklist) (member : target ∈ targetsOf (entries checklist)) :
    ItemRules target.2 := rules.items _ (mem_targetsOf.mp member).1

omit [Platform] in
/-- The item that a targeted run picks. -/
theorem target_of_filter (rules : Rules checklist)
    (single : ((entries checklist).filter fun item => item.isObj && item.get "id" = .str taskId) = [item]) :
    (taskId, item) ∈ targetsOf (entries checklist) := by
  have member : item ∈ [item] := List.mem_singleton_self item
  rw [← single, List.mem_filter, Bool.and_eq_true, decide_eq_true_eq] at member
  obtain ⟨listed, -, named⟩ := member
  have solid := (rules.items item listed).texts "id" (by decide)
  refine mem_targetsOf.mpr ⟨listed, identifier?_eq_some.mpr ⟨named, ?_⟩⟩
  rintro rfl
  rw [named] at solid
  exact absurd solid (by decide)

end Checklists

section Laws

variable {operations : List SplitOperationRow} {workspaceId : String} {read : Except Exn Reading} {reading : Reading}
  {task : Option String} {w w' : Work Db} {s : Session Db} {result : ReconcileResult} {e : Exn} {order : List String}
  {checklist : Json}

/-- A reconcile on a connection of its own. -/
def reconciled (operations : List SplitOperationRow) (workspaceId : String) (read : Except Exn Reading)
    (task : Option String) (w : Work Db) : EStateM.Result Exn (Session Db) ReconcileResult :=
  (reconcileWorkspace operations workspaceId read task).run (Session.connect w w.store)

/-- Targeted runs of some tasks one after the other, all of which return. -/
inductive TargetedRuns (operations : List SplitOperationRow) (workspaceId : String) (checklist : Json) :
    List String → Work Db → Work Db → Prop
  | nil (w : Work Db) : TargetedRuns operations workspaceId checklist [] w w
  | cons {reading : Reading} {taskId : String} {rest : List String} {w w' : Work Db} {result : ReconcileResult}
      {s : Session Db} (same : reading.checklist = checklist)
      (ran : reconciled operations workspaceId (.ok reading) (some taskId) w = .ok result s)
      (later : TargetedRuns operations workspaceId checklist rest s.settle w') :
      TargetedRuns operations workspaceId checklist (taskId :: rest) w w'

/-- The items of a checklist that a run takes. -/
def scope (items : List Json) : Option String → List (String × Json)
  | none => targetsOf items
  | some taskId => (items.filter fun item => item.isObj && item.get "id" = .str taskId).map fun item => (taskId, item)

theorem reconciled_valid (rules : Rules reading.checklist) : reconciled operations workspaceId (.ok reading) task w =
    (match task with
      | none => reconcileAll operations workspaceId reading (entries reading.checklist)
      | some taskId => reconcileTarget operations workspaceId taskId reading (entries reading.checklist)).run
      (Session.connect w w.store) := by
  rw [reconciled, reconcileWorkspace, Tx.bind_run]
  change (orRaise id (itemsOf reading.checklist) >>= _ : DbTx ReconcileResult).run (Session.connect w w.store) = _
  rw [itemsOf_valid rules]
  cases task <;> rfl

/-- What a run that returns has done. -/
structure Completed (operations : List SplitOperationRow) (workspaceId : String) (reading : Reading)
    (task : Option String) (db db' : Db) : Prop where
  targets : ∀ target ∈ scope (entries reading.checklist) task, target ∈ targetsOf (entries reading.checklist)
  single : ∀ taskId ∈ task, ∃ item, (taskId, item) ∈ targetsOf (entries reading.checklist) ∧
    (entries reading.checklist).filter (fun item => item.isObj && item.get "id" = .str taskId) = [item]
  projects : Projects operations workspaceId (scope (entries reading.checklist) task) db db'
  recorded : Recorded (summaryKey workspaceId reading ((scope (entries reading.checklist) task).map Prod.snd) task) db'

theorem reconciled_ok (rules : Rules reading.checklist)
    (ran : reconciled operations workspaceId (.ok reading) task w = .ok result s) :
    Completed operations workspaceId reading task w.store s.settle.store := by
  rw [reconciled_valid rules] at ran
  cases task with
  | none =>
    obtain ⟨projects, recorded⟩ := reconcileAll_ok (quiet_connect w) (targets_distinct rules) ran
    refine ⟨fun _ member => member, fun _ absent => (by cases absent), projects, ?_⟩
    rw [scope, items_of_targets rules]
    exact recorded
  | some taskId =>
    obtain ⟨target, single, projects, recorded⟩ := reconcileTarget_ok ran
    have whole : scope (entries reading.checklist) (some taskId) = [(taskId, target)] := by
      rw [scope, single]
      rfl
    have member := target_of_filter rules single
    refine ⟨?_, ?_, ?_, ?_⟩
    · intro other listed
      rw [whole] at listed
      obtain rfl := List.mem_singleton.mp listed
      exact member
    · intro other same
      obtain rfl := Option.mem_some_iff.mp same
      exact ⟨target, member, single⟩
    · rw [whole]
      exact projects
    · rw [whole]
      exact recorded

/-- An item and the stored rows are such that a reconcile can settle. -/
structure Settling (workspaceId : String) (checklist : Json) (db : Db) : Prop where
  items : ∀ item ∈ entries checklist, item.keys.Nodup ∧ Textual item
  rows : ∀ row ∈ db.tasks, row.workspaceId = workspaceId → Readable row

theorem Completed.still (completed : Completed operations workspaceId reading task w.store w'.store)
    (rules : Rules reading.checklist) (settling : Settling workspaceId reading.checklist w.store) :
    Still operations workspaceId (scope (entries reading.checklist) task) w'.store := by
  intro target member
  have listed := completed.targets target member
  obtain ⟨plan, planned, placed⟩ := completed.projects.placed target member
  obtain ⟨distinct, textual⟩ := settling.items _ (mem_targetsOf.mp listed).1
  have readable : ∀ row, findTask w.store workspaceId target.1 = some row → Readable row := by
    intro row found
    obtain ⟨stored, own⟩ := findTask_eq_some.mp found
    exact settling.rows row stored (isTask_iff.mp own).1
  obtain ⟨mirror, again⟩ := planItem_again (rules_of_target rules listed) distinct textual readable planned placed
  exact ⟨mirror, plan.row, again⟩

/-- The same run again. -/
theorem Completed.again (completed : Completed operations workspaceId reading task w.store w'.store)
    (rules : Rules reading.checklist) (settling : Settling workspaceId reading.checklist w.store) :
    ∃ result' s' mirrors, reconciled operations workspaceId (.ok reading) task w' = .ok result' s' ∧
      mirrors.length = (scope (entries reading.checklist) task).length ∧ result'.tally = unmoved mirrors ∧
      s'.settle.store = w'.store := by
  have still := completed.still rules settling
  have recorded := completed.recorded
  rw [reconciled_valid rules]
  cases task with
  | none =>
    rw [scope, items_of_targets rules] at recorded
    exact reconcileAll_again still recorded
  | some taskId =>
    obtain ⟨item, member, single⟩ := completed.single taskId rfl
    have whole : scope (entries reading.checklist) (some taskId) = [(taskId, item)] := by
      rw [scope, single]
      rfl
    rw [whole] at still recorded ⊢
    obtain ⟨mirror, row, planned⟩ := still _ (List.mem_singleton_self _)
    obtain ⟨result', s', run, tally, same⟩ := reconcileTarget_again single planned recorded
    exact ⟨result', s', [mirror], run, rfl, tally, same⟩

/-- Whichever way a run ends, it keeps what the coordinator has recorded. -/
theorem reconciled_keeps (valid : ∀ reading, read = .ok reading → Rules reading.checklist) :
    Keeps w.store (reconciled operations workspaceId read task w).final.settle.store := by
  cases read with
  | error e => exact keeps_refl _
  | ok reading =>
    have rules := valid reading rfl
    rw [reconciled_valid rules]
    cases task with
    | none =>
      exact (maintains_reconcileAll rules.items).settle (Nat.zero_le _) rfl (keeps_refl _)
    | some taskId =>
      dsimp only
      cases ran : (reconcileTarget operations workspaceId taskId reading (entries reading.checklist)).run
        (Session.connect w w.store) with
      | ok result s =>
        have whole : reconciled operations workspaceId (.ok reading) (some taskId) w = .ok result s :=
          (reconciled_valid rules).trans ran
        have completed := reconciled_ok rules whole
        refine keeps_of_projects (fun target member => ?_) completed.projects
        exact rules_of_target rules (completed.targets target member)
      | error e s =>
        have same := reconcileTarget_error ran
        change Keeps w.store s.durable
        rw [same]
        exact keeps_refl _

/-- What targeted runs of different tasks do together. -/
theorem TargetedRuns.projects (runs : TargetedRuns operations workspaceId checklist order w w')
    (rules : Rules checklist) (distinct : order.Nodup) :
    ∃ targets, targets.map Prod.fst = order ∧ (∀ target ∈ targets, target ∈ targetsOf (entries checklist)) ∧
      Projects operations workspaceId targets w.store w'.store := by
  induction runs with
  | nil w => exact ⟨[], rfl, List.forall_mem_nil _, projects_nil rfl⟩
  | @cons reading taskId rest w w' result s same ran later ih =>
    subst same
    obtain ⟨fresh, distinct⟩ := List.nodup_cons.mp distinct
    obtain ⟨targets, names, listed, projects⟩ := ih distinct
    have completed := reconciled_ok rules ran
    obtain ⟨item, member, single⟩ := completed.single taskId rfl
    have whole : scope (entries reading.checklist) (some taskId) = [(taskId, item)] := by
      rw [scope, single]
      rfl
    have first := completed.projects
    rw [whole] at first
    obtain ⟨plan, planned, placed⟩ := first.placed _ (List.mem_singleton_self _)
    have places : Places workspaceId taskId plan w.store s.settle.store := by
      refine ⟨placed, fun workspace task apart => first.others _ _ ?_⟩
      rintro ⟨rfl, named⟩
      exact apart ⟨rfl, List.mem_singleton.mp named⟩
    refine ⟨(taskId, item) :: targets, ?_, ?_, Projects.cons planned places (by rw [names]; exact fresh) projects⟩
    · rw [List.map_cons, names]
    · intro target member'
      rcases List.mem_cons.mp member' with rfl | later
      · exact member
      · exact listed target later

/-- A run from another state of the harness. -/
theorem Still.anew (still : Still operations workspaceId (scope (entries reading.checklist) task) w.store)
    (rules : Rules reading.checklist) (workspace taskId : String) :
    findTask (reconciled operations workspaceId (.ok reading) task w).final.settle.store workspace taskId =
      findTask w.store workspace taskId := by
  cases task with
  | none =>
    rw [reconciled_valid rules]
    exact findTask_congr (reconcileAll_anew still) _ _
  | some name =>
    cases ran : reconciled operations workspaceId (.ok reading) (some name) w with
    | error e s =>
      rw [reconciled_valid rules] at ran
      exact findTask_congr (congrArg Db.tasks (reconcileTarget_error ran)) _ _
    | ok result s =>
      have completed := reconciled_ok rules ran
      change findTask s.settle.store workspace taskId = findTask w.store workspace taskId
      by_cases own : workspace = workspaceId ∧ taskId ∈ (scope (entries reading.checklist) (some name)).map Prod.fst
      · obtain ⟨rfl, named⟩ := own
        obtain ⟨target, member, rfl⟩ := List.mem_map.mp named
        obtain ⟨plan, planned, placed⟩ := completed.projects.placed target member
        obtain ⟨mirror, row, unchanged⟩ := still target member
        rw [planned] at unchanged
        cases unchanged
        rw [placed, placed_of_unchanged planned rfl]
      · exact completed.projects.others workspace taskId own

/-- What a reconcile is for: it keeps what the coordinator has recorded, settles after one run, does not depend on
the order of the tasks, and a targeted run that raises has done nothing. -/
structure ReconcileLaws (operations : List SplitOperationRow) (workspaceId : String) : Prop where
  keeps : ∀ read task w, (∀ reading, read = .ok reading → validateChecklist reading.checklist = .ok []) →
    Keeps w.store (reconciled operations workspaceId read task w).final.settle.store
  again : ∀ reading task w result s w', validateChecklist reading.checklist = .ok [] →
    Settling workspaceId reading.checklist w.store →
    reconciled operations workspaceId (.ok reading) task w = .ok result s → w'.store = s.settle.store →
    ∃ result' s' mirrors, reconciled operations workspaceId (.ok reading) task w' = .ok result' s' ∧
      mirrors.length = (scope (entries reading.checklist) task).length ∧ result'.tally = unmoved mirrors ∧
      s'.settle.store = w'.store
  anew : ∀ reading reading' task w result s w', validateChecklist reading.checklist = .ok [] →
    Settling workspaceId reading.checklist w.store → reading'.checklist = reading.checklist →
    reconciled operations workspaceId (.ok reading) task w = .ok result s → w'.store = s.settle.store →
    ∀ workspace taskId, findTask (reconciled operations workspaceId (.ok reading') task w').final.settle.store
      workspace taskId = findTask w'.store workspace taskId
  order : ∀ reading w result s order w', validateChecklist reading.checklist = .ok [] →
    reconciled operations workspaceId (.ok reading) none w = .ok result s →
    TargetedRuns operations workspaceId reading.checklist order w w' →
    order.Perm ((targetsOf (entries reading.checklist)).map Prod.fst) →
    ∀ workspace taskId, findTask s.settle.store workspace taskId = findTask w'.store workspace taskId
  failed : ∀ read taskId w e s, reconciled operations workspaceId read (some taskId) w = .error e s →
    s.settle.store = w.store

theorem reconcile_laws (operations : List SplitOperationRow) (workspaceId : String) :
    ReconcileLaws operations workspaceId where
  keeps read task w valid := reconciled_keeps fun reading own => rules_iff.mp (valid reading own)
  again reading task w result s w' valid settling ran same := by
    have rules := rules_iff.mp valid
    have completed := reconciled_ok rules ran
    rw [← same] at completed
    exact completed.again rules settling
  anew reading reading' task w result s w' valid settling own ran same := by
    have rules := rules_iff.mp valid
    have completed := reconciled_ok rules ran
    rw [← same] at completed
    have still := completed.still rules settling
    rw [← own] at still rules
    exact still.anew rules
  order reading w result s order w' valid ran runs perm := by
    have rules := rules_iff.mp valid
    have distinct := targets_distinct rules
    obtain ⟨targets, names, listed, projects⟩ := runs.projects rules (perm.nodup_iff.mpr distinct)
    refine (reconciled_ok rules ran).projects.unique projects fun target => ⟨fun member => ?_, listed target⟩
    have named : target.1 ∈ targets.map Prod.fst := by
      rw [names]
      exact perm.mem_iff.mpr (List.mem_map_of_mem member)
    obtain ⟨other, member', same⟩ := List.mem_map.mp named
    rwa [List.inj_on_of_nodup_map distinct member (listed other member') same.symm]
  failed read taskId w e s ran := by
    cases read with
    | error problem =>
      cases ran
      rfl
    | ok reading =>
      rw [reconciled, reconcileWorkspace, Tx.bind_run] at ran
      change (orRaise id (itemsOf reading.checklist) >>= _ : DbTx ReconcileResult).run (Session.connect w w.store) = _ at ran
      cases listed : itemsOf reading.checklist with
      | error problem =>
        rw [listed] at ran
        cases ran
        rfl
      | ok items =>
        rw [listed] at ran
        exact reconcileTarget_error ran

end Laws

end Coordinate.MirrorReconcile

namespace Coordinate.MirrorReconcile.Sample

open Coordinate.Sample
open Coordinate.Checklist (validateChecklist)

/-- What a checklist with some items is read as. -/
def readingOf (items : List Json) : Reading where
  state := .obj []
  checklist := .obj [("project", .str "p"), ("harness_root", .str "docs"), ("updated_at", .str "2025-01-01"),
    ("items", .arr items)]

/-- The item `b` with a branch. -/
def named (branch : String) : Json :=
  (itemOf "todo" [("artifacts", .obj [("branch", .str branch)])]).set "id" (.str "b")

/-- The item `a` that the checklist closes. -/
def closing : Json := itemOf "done" [("workflow", .obj [("status", .str "closed")])]

/-- The item `b` with the envelope of the operation that made it. -/
def enveloped : Json :=
  (named "m").set "split_operation" (.obj [("contract_version", .int 1), ("operation_id", .str (uuid 0)),
    ("operation_kind", .str "task.create"), ("workspace_id", .str "w"), ("target_kind", .str "checklist_task"),
    ("target_id", .str "b"), ("source_kind", .null), ("source_id", .null), ("input_fingerprint", .str zeroDigest),
    ("before_fingerprint", .str zeroDigest), ("after_fingerprint", .str zeroDigest), ("files_applied_at", .null)])

def stored (taskId branch : String) (payload : Json) : TaskMirror :=
  ⟨"w", taskId, some "running", none, some branch, none, some "e", .value payload⟩

def holding (row : TaskMirror) : Work Db := ⟨{ Db.empty with tasks := tableOf row }, 0, 0⟩

/-- The tally of a run that returns, and what it leaves to the next one. -/
def returned (result : EStateM.Result Exn (Session Db) ReconcileResult) : Option (Tally × Work Db) :=
  match result with
  | .ok value s => some (value.tally, s.settle)
  | .error _ _ => none

def runOn (items : List Json) (task : Option String) (w : Work Db) : Option (Tally × Work Db) :=
  returned (reconciled [] "w" (.ok (readingOf items)) task w)

/-- A second run of a checklist after a first one. -/
def twice (items : List Json) (w : Work Db) : Option (Tally × Work Db) :=
  (runOn items none w).bind fun first => runOn items none first.2

/-- Two tasks exchange a branch, which goes in one order only; a number for an owner is written anew each time; an
envelope over a stored list is reduced by the second run; and an empty branch is no branch. -/
theorem order_and_types_matter :
    (validateChecklist (readingOf [closing, named "m"]).checklist = .ok [] ∧
      (runOn [closing, named "m"] none (holding (stored "a" "m" (.obj [])))).isSome = true ∧
      runOn [closing, named "m"] (some "b") (holding (stored "a" "m" (.obj []))) = none) ∧
    (validateChecklist (readingOf [(named "m").set "owner" (.int 7)]).checklist = .ok [] ∧
      (twice [(named "m").set "owner" (.int 7)] (holding (stored "b" "m" (.obj [])))).map (·.1.updated) = some 1) ∧
    (validateChecklist (readingOf [enveloped]).checklist = .ok [] ∧
      (twice [enveloped] (holding (stored "b" "m" (.arr [])))).map (·.1.updated) = some 1) ∧
    validateChecklist (readingOf [named "m"]).checklist = .ok [] ∧
      (runOn [named "m"] none (holding (stored "b" "" (.obj [])))).map
        (fun ran => ran.2.store.tasks.rows.map fun row => (row.branch, row.lastEventId)) =
          some [(some "m", some "e")] := by
  decide +kernel

/-- A run that writes, and the same run after it. -/
theorem second_run_settles : ∃ result s result' s',
    reconciled [] "w" (.ok (readingOf [named "m"])) none (holding (stored "b" "" (.obj []))) = .ok result s ∧
    result.tally.updated = 1 ∧ reconciled [] "w" (.ok (readingOf [named "m"])) none s.settle = .ok result' s' ∧
    result'.tally.updated = 0 ∧ s'.settle.store = s.settle.store := by
  have wrote : (runOn [named "m"] none (holding (stored "b" "" (.obj [])))).map (·.1.updated) = some 1 := by
    decide +kernel
  have valid : validateChecklist (readingOf [named "m"]).checklist = .ok [] := by decide +kernel
  have settling : Settling "w" (readingOf [named "m"]).checklist (holding (stored "b" "" (.obj []))).store := by
    refine ⟨fun item member => ?_, fun row member _ => ?_⟩
    · obtain rfl := List.mem_singleton.mp member
      exact ⟨by decide, ⟨.inl rfl, .inl rfl⟩⟩
    · obtain rfl := List.mem_singleton.mp member
      exact ⟨rfl, List.nodup_nil⟩
  unfold runOn at wrote
  cases ran : reconciled [] "w" (.ok (readingOf [named "m"])) none (holding (stored "b" "" (.obj []))) with
  | error e s =>
    rw [ran] at wrote
    cases wrote
  | ok result s =>
    rw [ran] at wrote
    obtain ⟨result', s', mirrors, again, -, tally, same⟩ :=
      (reconcile_laws [] "w").again (readingOf [named "m"]) none _ result s s.settle valid settling ran rfl
    exact ⟨result, s, result', s', rfl, Option.some.inj wrote, again, by rw [tally]; rfl, same⟩

end Coordinate.MirrorReconcile.Sample

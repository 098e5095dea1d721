import Coordinate.Model.Bindings
import Coordinate.Model.Installation
import Coordinate.Proofs.Calls

/-! # A branch or a pull request is bound in full or not at all

Where the indexes take every row that a call writes, a call that raises has left the store alone, and a
call that returns has created at most the event of its own binding, with the mirror carrying it. The table
of tasks never lets two open tasks of a workspace share a branch.
-/

namespace Coordinate.Bindings

open Program DbCall

section Requests

def Request.workspaceId : Request → String
  | allocate arguments => arguments.workspaceId
  | link arguments => arguments.workspaceId

def Request.taskId : Request → String
  | allocate arguments => arguments.taskId
  | link arguments => arguments.taskId

def Request.eventType : Request → String
  | allocate _ => "branch.allocated"
  | link _ => "pr.linked"

/-- The field of the payload that names the branch or the pull request. -/
def Request.field : Request → String
  | allocate _ => "branch"
  | link _ => "pr"

/-- The column of the mirror that carries it. -/
def Request.column : Request → TaskMirror → Option String
  | allocate _ => (·.branch)
  | link _ => (·.pr)

def Outcome.value : Outcome → String
  | allocated result => result.branch
  | linked result => result.prUrl

/-- The event says that the task of the request is bound to the value. -/
structure Request.Records (request : Request) (value : String) (event : EventRow) : Prop where
  eventType : event.eventType = request.eventType
  workspace : event.workspaceId = some request.workspaceId
  task : event.taskId = some request.taskId
  payload : ∃ payload, event.payloadJson = .value payload ∧
    payload.field? request.field = some (.str value)

/-- No event comes from a statement but those of the binding. -/
def Request.Only (request : Request) (value : String) (entry : Performed DbStatement (Work Db)) : Prop :=
  ∀ event ∈ entry.after.store.events, event ∈ entry.before.store.events ∨ request.Records value event

/-- What a call has done when it ends: all of it, or nothing. -/
def Request.Done (request : Request) (past : List (Performed DbStatement (Work Db))) :
    Except Exn Outcome → Prop
  | .ok outcome => (∀ entry ∈ past, request.Only outcome.value entry) ∧ ∃ entry ∈ past.getLast?,
    (findTask entry.after.store request.workspaceId request.taskId).bind request.column =
      some outcome.value
  | .error _ => ∀ entry ∈ past, Silent entry

/-- No other task holds the branch or the pull request of the row that a call writes. -/
def Careful (_ : Request) (_ : List (Performed DbStatement (Work Db))) (w : Work Db) : DbStatement → Prop
  | .mirror row => Accepts w.store.tasks row
  | _ => True

end Requests

section Tails

variable [Platform] {past : List (Performed DbStatement (Work Db))} {value : String} {request : Request}

omit [Platform] in
theorem only_of_silent {entry : Performed DbStatement (Work Db)} (silent : Silent entry) :
    request.Only value entry := by
  intro event member
  rw [silent] at member
  exact .inl member

/-- An append stores at most the event that it is told to. -/
theorem only_of_appended {event : NewEvent} {w w' : Work Db} {result : AppendEventResult}
    (appended : Appended event w w' result)
    (records : ∀ eventId createdAt, request.Records value (event.toRow eventId createdAt)) :
    request.Only value ⟨.append event, w, w'⟩ := by
  intro row member
  cases appended with
  | created events inserted store =>
    dsimp only at member
    rw [store] at member
    rcases (Table.mem_insert? inserted).mp member with old | rfl
    · exact .inl old
    · exact .inr (records _ _)
  | existing row key found store =>
    dsimp only at member
    rw [store] at member
    exact .inl member

/-- A call abides by what is asked of it up to some end. -/
abbrev Abides {α : Type} (request : Request)
    (ends : List (Performed DbStatement (Work Db)) → Except Exn α → Prop)
    (past : List (Performed DbStatement (Work Db))) (call : DbCall α) : Prop :=
  Ends (fun w => Readable w.store) (Careful request) (fun _ _ => True) ends past call

omit [Platform] in
theorem quiet (_ : List (Performed DbStatement (Work Db))) (entry : Performed DbStatement (Work Db))
    (_ : Silent entry) : True := trivial

omit [Platform] in
theorem draws (w w' : Work Db) (readable : Readable w.store) (same : w'.store = w.store) :
    Readable w'.store := by
  rwa [same]

omit [Platform] in
/-- The upsert that a call ends with: the indexes take the row, which carries the value. -/
theorem abides_upsert {α : Type} {workspaceId taskId : String} {columns : MirrorColumns}
    {k : TaskMirror × MirrorStatus → DbCall α}
    {ends : List (Performed DbStatement (Work Db)) → Except Exn α → Prop}
    (only : ∀ entry ∈ past, request.Only value entry)
    (rest : ∀ entries status, (∀ entry ∈ entries, request.Only value entry) →
      (∃ entry ∈ entries.getLast?, findTask entry.after.store workspaceId taskId =
        some (columns.toRow workspaceId taskId)) →
      Abides request ends entries (k (columns.toRow workspaceId taskId, status))) :
    Abides request ends past (upsertMirror workspaceId taskId columns >>= k) := by
  refine ends_upsertMirror quiet draws (fun w _ found => rest _ _ ?_ ⟨_, List.getLast?_concat, found⟩)
    (fun found w takes full => ?_) fun found w tasks status readable takes put => ?_
  · exact List.forall_mem_append.mpr ⟨only, List.forall_mem_singleton.mpr (only_of_silent rfl)⟩
  · obtain ⟨tasks, put⟩ := exists_putTask takes
    rw [full] at put
    cases put
  · refine ⟨readable_putTask readable rfl put, trivial, rest _ _ ?_
      ⟨_, List.getLast?_concat, find?_putTask put⟩⟩
    exact List.forall_mem_append.mpr ⟨List.forall_mem_append.mpr ⟨only,
      List.forall_mem_singleton.mpr (only_of_silent rfl)⟩, List.forall_mem_singleton.mpr fun _ => .inl⟩

omit [Platform] in
theorem toDict_value {row : EventRow} {payload : Json} (own : row.payloadJson = .value payload) :
    row.toDict = .ok ⟨row, payload⟩ := by
  rw [EventRow.toDict, own]
  rfl

/-- The append and the upsert of `allocate_branch`. -/
theorem abides_allocate {arguments : AllocateArguments} {workspace : Workspace} {owner branch : String}
    {existing : Option TaskMirror} {held : Bool} (silent : ∀ entry ∈ past, Silent entry)
    (readable : ∀ row ∈ existing, ∃ payload, row.payloadJson = .value payload) :
    Abides (.allocate arguments)
      (fun past outcome => (Request.allocate arguments).Done past (outcome.map .allocated)) past
      (allocate arguments workspace owner branch existing held) := by
  refine ends_recordEvent quiet draws (fun w w' _ _ => ?_) fun w w' result readable' _ appended => ?_
  · exact List.forall_mem_append.mpr ⟨silent, List.forall_mem_singleton.mpr rfl⟩
  have readable' := readable_appended readable' appended
  refine ⟨readable', trivial, ends_orRaise (fun e failed => ?_) fun event decoded => ?_⟩
  · obtain ⟨payload, own⟩ := readable'.events _ appended.mem
    rw [toDict_value own] at failed
    cases failed
  refine ends_orRaise (fun e failed => ?_) fun payload loaded => ?_
  · cases existing with
    | none => cases failed
    | some row =>
      obtain ⟨payload, own⟩ := readable row rfl
      dsimp only at failed
      rw [own] at failed
      cases failed
  have only : ∀ entry ∈ past ++ [⟨.append (allocationEvent arguments workspace owner branch), w, w'⟩],
      (Request.allocate arguments).Only branch entry := by
    refine List.forall_mem_append.mpr ⟨fun entry member => only_of_silent (silent entry member),
      List.forall_mem_singleton.mpr (only_of_appended appended fun eventId createdAt => ?_)⟩
    exact ⟨rfl, rfl, rfl, _, rfl, rfl⟩
  refine abides_upsert only fun entries status only ⟨entry, last, found⟩ =>
    ends_pure ⟨only, entry, last, ?_⟩
  exact (congrArg (·.bind (·.branch)) found).trans rfl

/-- The append and the upsert of `link_pr`. -/
theorem abides_link {arguments : LinkArguments} {workspace : Workspace} {pr : String}
    {branch : Option String} {existing : Option TaskMirror} (silent : ∀ entry ∈ past, Silent entry)
    (readable : ∀ row ∈ existing, ∃ payload, row.payloadJson = .value payload) :
    Abides (.link arguments)
      (fun past outcome => (Request.link arguments).Done past (outcome.map .linked)) past
      (link arguments workspace pr branch existing) := by
  refine ends_recordEvent quiet draws (fun w w' _ _ => ?_) fun w w' result readable' _ appended => ?_
  · exact List.forall_mem_append.mpr ⟨silent, List.forall_mem_singleton.mpr rfl⟩
  have readable' := readable_appended readable' appended
  refine ⟨readable', trivial, ?_⟩
  have only : ∀ entry ∈ past ++ [⟨.append (linkEvent arguments workspace pr branch), w, w'⟩],
      (Request.link arguments).Only pr entry := by
    refine List.forall_mem_append.mpr ⟨fun entry member => only_of_silent (silent entry member),
      List.forall_mem_singleton.mpr (only_of_appended appended fun eventId createdAt => ?_)⟩
    exact ⟨rfl, rfl, rfl, _, rfl, rfl⟩
  obtain ⟨payload, own⟩ := readable'.events _ appended.mem
  have decoded := toDict_value own
  cases existing with
  | none =>
    refine abides_upsert only fun entries status only ⟨entry, last, found⟩ => ?_
    rw [decoded]
    exact ends_pure ⟨only, entry, last, (congrArg (·.bind (·.pr)) found).trans rfl⟩
  | some row =>
    obtain ⟨payload, own⟩ := readable row rfl
    dsimp only
    rw [own]
    refine abides_upsert only fun entries status only ⟨entry, last, found⟩ => ?_
    rw [decoded]
    exact ends_pure ⟨only, entry, last, (congrArg (·.bind (·.pr)) found).trans rfl⟩

end Tails

section Requests

variable [Platform]

omit [Platform] in
/-- A query leaves the store alone. -/
theorem silent_snoc {past : List (Performed DbStatement (Work Db))} {tag : DbStatement} {w : Work Db}
    (silent : ∀ entry ∈ past, Silent entry) : ∀ entry ∈ past ++ [⟨tag, w, w⟩], Silent entry :=
  List.forall_mem_append.mpr ⟨silent, List.forall_mem_singleton.mpr rfl⟩

omit [Platform] in
theorem readable_found {db : Db} {workspaceId taskId : String} (readable : Readable db) :
    ∀ row ∈ findTask db workspaceId taskId, ∃ payload, row.payloadJson = .value payload :=
  fun row found => readable.tasks row (findTask_eq_some.mp found).1

/-- The call rule: one case for each of the two functions. -/
theorem abides (request : Request) : Abides request request.Done [] request.body := by
  have start : ∀ entry ∈ ([] : List (Performed DbStatement (Work Db))), Silent entry :=
    List.forall_mem_nil _
  cases request with
  | allocate arguments =>
    refine ends_map (ends_queryOrRaise quiet (fun w e _ _ => silent_snoc start) fun w workspace _ _ => ?_)
    refine ends_readTask quiet fun w' readable => ?_
    have silent : ∀ entry ∈ [] ++ [⟨.read, w, w⟩] ++
        [⟨.task arguments.workspaceId arguments.taskId, w', w'⟩], Silent entry :=
      silent_snoc (silent_snoc start)
    split
    · dsimp only
      split
      · exact abides_allocate silent (readable_found readable)
      · exact ends_throw silent
    · refine ends_query quiet fun w'' _ => ?_
      split
      · exact ends_throw (silent_snoc silent)
      · exact abides_allocate (silent_snoc silent) (readable_found readable)
  | link arguments =>
    refine ends_map (ends_queryOrRaise quiet (fun w e _ _ => silent_snoc start) fun w workspace _ _ => ?_)
    refine ends_readTask quiet fun w' readable => ?_
    have silent : ∀ entry ∈ [] ++ [⟨.read, w, w⟩] ++
        [⟨.task arguments.workspaceId arguments.taskId, w', w'⟩], Silent entry :=
      silent_snoc (silent_snoc start)
    refine ends_orRaise (fun e _ => silent) fun checked _ => ends_query quiet fun w'' _ => ?_
    split
    · exact ends_throw (silent_snoc silent)
    · exact abides_link (silent_snoc silent) (readable_found readable)

/-- All interleavings of the two functions, with a record of their statements. -/
def calls := Pool.recorded Request.body DbCall.wait

/-- **Bindings are all or nothing, and exclusive**, where the indexes take every row that is written: a
call that has raised has left the store alone, an event that a call has created is that of its binding,
which the mirror carried when the call returned, and no two open tasks share a branch. -/
theorem bound_or_unchanged {start : Work Db} (readable : Readable start.store)
    {pool : Pool Request DbStatement (Work Db) Exn Outcome}
    {record : List (Nat × Performed DbStatement (Work Db))}
    (run : calls.Reaches (Pool.Heeds Careful) (Pool.initial start, []) (pool, record)) :
    (∀ index request e, pool.parties[index]? = some (request, .raised e) →
      ∀ entry ∈ Pool.performedBy index record, Silent entry) ∧
    (∀ event ∈ pool.shared.store.events, event ∉ start.store.events →
      ∃ index request rest, pool.parties[index]? = some (request, rest) ∧
        (∀ e, rest ≠ .raised e) ∧
        ∀ outcome, rest = .done outcome → request.Records outcome.value event ∧
          ∃ entry ∈ (Pool.performedBy index record).getLast?,
            (findTask entry.after.store request.workspaceId request.taskId).bind request.column =
              some outcome.value) ∧
    ∀ left ∈ pool.shared.store.tasks, ∀ right ∈ pool.shared.store.tasks,
      left.workspaceId = right.workspaceId → left.phase ≠ some "closed" → right.phase ≠ some "closed" →
      left.branch = right.branch → left.branch.isSome = true → left = right := by
  obtain ⟨-, effects, returned, raised⟩ := Pool.ended abides
    (fun readings s t readable waited => by cases waited; exact readable) readable run
  refine ⟨raised, fun event member fresh => ?_, fun left leftMember right rightMember same openL openR
    branch held => ?_⟩
  · obtain ⟨⟨index, entry⟩, noted, absent, present⟩ := Pool.caused
      (P := fun w : Work Db => event ∈ w.store.events)
      (fun readings s t waited => by cases waited; exact id) fresh run member
    obtain ⟨request, rest, -, found, -⟩ := effects index entry noted
    have performed := Pool.mem_performedBy.mpr noted
    refine ⟨index, request, rest, found, ?_, ?_⟩
    · rintro e rfl
      have silent := raised index request e found entry performed
      rw [silent] at present
      exact absent present
    · rintro outcome rfl
      obtain ⟨only, carried⟩ := returned index request outcome found
      exact ⟨(only entry performed event present).resolve_left absent, carried⟩
  · refine Table.eq_of_clash leftMember rightMember ?_
    simp [taskSchema, TaskMirror.sameBranch, same, branch ▸ held, branch, openL, openR]

end Requests

namespace Sample

open Coordinate.Sample

/-- A task that holds a branch. -/
def start : Work Db :=
  { initialWork with store := { Db.empty with
    workspaces := tableOf { id := "w", path := "/w", harnessRoot := "/w" }
    tasks := tableOf { workspaceId := "w", taskId := "t", branch := some "b" } } }

theorem start_readable : Readable start.store := by
  refine ⟨fun event member => (by cases member), fun row member => ?_⟩
  cases List.mem_singleton.mp member
  exact ⟨_, rfl⟩

/-- A pull request of another task, from a branch. -/
def linking (branch : String) : Request :=
  .link { workspaceId := "w", taskId := "u", prUrl := some "p", branch := some branch }

/-- A call that runs to its end. -/
def alone (request : Request) : List (Pool.Move Request Nat) :=
  .start request :: List.replicate 6 (.perform 0)

/-- The first call has raised. -/
def hasRaised (pool : Pool Request DbStatement (Work Db) Exn Outcome) : Bool :=
  match pool.parties with
  | (_, .raised _) :: _ => true
  | _ => false

/-- The branch is taken: the event is appended, and the mirror is refused. -/
theorem event_without_binding : ∃ pool record request e event, calls.Reaches Machine.anyStep
    (Pool.initial start, []) (pool, record) ∧ pool.parties[0]? = some (request, .raised e) ∧
    event ∈ pool.shared.store.events ∧ event ∉ start.store.events ∧ event.eventType = "pr.linked" ∧
    event.taskId = some "u" ∧ findTask pool.shared.store "w" "u" = none := by
  obtain ⟨⟨pool, record⟩, run, checked⟩ :=
    @Machine.exists_reaches _ _ calls Machine.anyStep (Pool.initial start, []) (fun _ _ => true)
      (fun s => hasRaised s.1 && s.1.shared.store.events.any (fun event => event.eventType = "pr.linked" &&
        event.taskId = some "u") && (findTask s.1.shared.store "w" "u").isNone) (fun _ _ _ => trivial)
      (alone (linking "b")) (by decide +kernel)
  simp only [Bool.and_eq_true, Option.isNone_iff_eq_none] at checked
  obtain ⟨⟨raised, linked⟩, absent⟩ := checked
  obtain ⟨event, member, linked⟩ := List.any_eq_true.mp linked
  rw [Bool.and_eq_true, decide_eq_true_eq, decide_eq_true_eq] at linked
  unfold hasRaised at raised
  split at raised
  · rename_i request e rest parties
    refine ⟨pool, record, request, e, event, run, ?_, member, fun old => (by cases old), linked.1, linked.2,
      absent⟩
    rw [parties]
    rfl
  · cases raised

/-- Every row that is written is taken. -/
def accepted (w : Work Db) : DbStatement → Bool
  | .mirror row => w.store.tasks.rows.all fun other => isTask row.workspaceId row.taskId other ||
    (!row.sameBranch other && !row.samePr other)
  | _ => true

theorem careful_of_accepted (request : Request) (past : List (Performed DbStatement (Work Db)))
    (w : Work Db) (tag : DbStatement) (passed : accepted w tag = true) : Careful request past w tag := by
  cases tag with
  | mirror row =>
    intro other member apart
    simpa [apart] using List.all_eq_true.mp passed other member
  | _ => trivial

/-- The branch is free. -/
theorem binding_recorded : ∃ pool record event, calls.Reaches (Pool.Heeds Careful)
    (Pool.initial start, []) (pool, record) ∧ event ∈ pool.shared.store.events ∧
    event ∉ start.store.events ∧
    ∃ (index : Nat) (request : Request) (rest : DbCall Outcome),
      pool.parties[index]? = some (request, rest) ∧ (∀ e, rest ≠ .raised e) ∧
      ∀ outcome, rest = .done outcome → request.Records outcome.value event := by
  obtain ⟨⟨pool, record⟩, run, checked⟩ :=
    @Machine.exists_reaches _ _ calls (Pool.Heeds Careful) (Pool.initial start, [])
      (Pool.heeding fun _ _ => accepted) (fun s => s.1.shared.store.events.rows.length = 1)
      (Pool.heeds_of_heeding careful_of_accepted) (alone (linking "c")) (by decide +kernel)
  obtain ⟨event, same⟩ := List.length_eq_one_iff.mp (of_decide_eq_true checked)
  have member : event ∈ pool.shared.store.events := by
    rw [Table.mem_def, same]
    exact List.mem_singleton_self event
  have fresh : event ∉ start.store.events := fun old => by cases old
  obtain ⟨index, request, rest, found, unraised, done⟩ :=
    (bound_or_unchanged start_readable run).2.1 event member fresh
  exact ⟨pool, record, event, run, member, fresh, index, request, rest, found, unraised,
    fun outcome same => (done outcome same).1⟩

end Sample

end Coordinate.Bindings

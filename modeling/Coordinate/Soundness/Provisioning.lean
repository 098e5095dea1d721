import Coordinate.Model.Installation
import Coordinate.Proofs.Provisioning

/-! # One pending request, one outcome

However requests, finishes, lists and other programs follow each other, a workspace has one pending
request at most and a request one outcome at most, which stays. A call that repeats the key of a request
of its workspace writes nothing: with the same parameters it returns what has become of the request, and
with other parameters it raises.
-/

namespace Coordinate.Provisioning

/-- What a call in progress has found is there. -/
def Placed (db : Db) : Phase → Prop
  | .requesting _ .entering => True
  | .requesting asked (.projecting row) => row ∈ db.events ∧ Records row asked
  | .requesting asked _ => asked.check db = .ok ()
  | .finishing _ .finding => True
  | .finishing arguments (.checking row) =>
    row ∈ db.events ∧ row.eventType = requestEventType ∧ row.id = arguments.requestEventId
  | .finishing arguments (.projecting row) =>
    row ∈ db.events ∧ row.eventType = requestEventType ∧ row.id = arguments.requestEventId
  | .finishing arguments (.appending row outcome) =>
    row ∈ db.events ∧ row.eventType = requestEventType ∧ row.id = arguments.requestEventId ∧
      arguments.outcome = .ok outcome
  | _ => True

theorem Placed.later {s t : Db} {phase : Phase} (extends_ : Extends s t) (placed : Placed s phase) :
    Placed t phase := by
  cases phase with
  | requesting asked point =>
    cases point with
    | entering => trivial
    | looking => exact extends_.check placed
    | writing => exact extends_.check placed
    | projecting row => exact ⟨extends_.mem placed.1, placed.2⟩
  | finishing arguments point =>
    cases point with
    | finding => trivial
    | checking row => exact ⟨extends_.mem placed.1, placed.2⟩
    | appending row outcome => exact ⟨extends_.mem placed.1, placed.2⟩
    | projecting row => exact ⟨extends_.mem placed.1, placed.2⟩
  | _ => trivial

/-- The invariant of the calls. -/
structure Steady (s : State) : Prop where
  kept : Kept s.db
  placed : ∀ call, Placed s.db (s.phase call)

section Steps

variable [Platform] {s t u : State}

omit [Platform] in
theorem placed_resume {db : Db} {next : Except Exn Phase}
    (goes : ∀ phase, next = .ok phase → Placed db phase) : Placed db (resume next) := by
  cases next with
  | ok phase => exact goes phase rfl
  | error e => trivial

omit [Platform] in
theorem transact_did {α : Type} {work after : Work Db} {body : DbTxn α} {next : α → Phase}
    {phase : Phase} (stepped : transact work body next = (after, phase))
    (did : ∀ a after, body.run work = .ok a after →
      Did work.store after.store ∧ Placed after.store (next a)) :
    Did work.store after.store ∧ Placed after.store phase := by
  unfold transact at stepped
  cases ran : body.run work with
  | ok a later =>
    rw [ran] at stepped
    cases stepped
    exact did a after ran
  | error e later =>
    rw [ran] at stepped
    cases stepped
    exact ⟨.nothing rfl, trivial⟩

/-- The inversion lemma of a step of a call. -/
theorem callStep_did {work after : Work Db} {phase next : Phase} (placed : Placed work.store phase)
    (stepped : callStep work phase = some (after, next)) :
    Did work.store after.store ∧ Placed after.store next := by
  cases phase with
  | idle => cases stepped
  | returned outcome => cases stepped
  | listing =>
    cases stepped
    exact ⟨.nothing rfl, trivial⟩
  | requesting asked point =>
    cases point with
    | entering =>
      cases stepped
      refine ⟨.nothing rfl, placed_resume fun phase went => ?_⟩
      obtain ⟨_, checked, went⟩ := Except.bind_ok.mp went
      cases went
      exact checked
    | looking =>
      cases stepped
      refine ⟨.nothing rfl, placed_resume fun phase went => ?_⟩
      split at went
      · cases went
        exact placed
      · rename_i row found
        obtain ⟨_, matching, went⟩ := Except.bind_ok.mp went
        cases went
        obtain ⟨member, key⟩ := findEventByKey_eq_some.mp found
        exact ⟨member, (assertRequestMatches_iff key).mp matching⟩
    | writing =>
      refine transact_did (Option.some.inj stepped) fun row after ran => ?_
      obtain ⟨did, member, records, -⟩ := recordRequest_ok placed ran
      exact ⟨did, member, records⟩
    | projecting row =>
      cases stepped
      refine ⟨.nothing rfl, placed_resume fun phase went => ?_⟩
      obtain ⟨_, _, went⟩ := Except.bind_ok.mp went
      cases went
      trivial
  | finishing arguments point =>
    cases point with
    | finding =>
      cases stepped
      refine ⟨.nothing rfl, placed_resume fun phase went => ?_⟩
      obtain ⟨row, found, went⟩ := Except.bind_ok.mp went
      obtain ⟨_, type, went⟩ := Except.bind_ok.mp went
      cases went
      unfold getEvent at found
      split at found
      · cases found
      · rename_i same
        cases found
        obtain ⟨member, id⟩ := Table.find?_some same
        exact ⟨member, not_not.mp (raiseIf_except_ok.mp type), of_decide_eq_true id⟩
    | checking row =>
      cases stepped
      refine ⟨.nothing rfl, placed_resume fun phase went => ?_⟩
      obtain ⟨prior, _, went⟩ := Except.bind_ok.mp went
      cases prior with
      | some _ =>
        cases went
        exact placed
      | none =>
        obtain ⟨outcome, given, went⟩ := Except.bind_ok.mp went
        cases went
        exact ⟨placed.1, placed.2.1, placed.2.2, given⟩
    | appending row outcome =>
      refine transact_did (Option.some.inj stepped) fun _ after ran => ?_
      have did := recordTerminal_ok placed.2.2.2 ran
      exact ⟨did, did.extends.mem placed.1, placed.2.1, placed.2.2.1⟩
    | projecting row =>
      cases stepped
      refine ⟨.nothing rfl, placed_resume fun phase went => ?_⟩
      obtain ⟨_, _, went⟩ := Except.bind_ok.mp went
      cases went
      trivial

/-- The inversion lemma of a step. -/
theorem step_did (steady : Steady s) {label : Label} (stepped : step s label = some u) :
    Did s.db u.db ∧ ∀ call, Placed u.db (u.phase call) := by
  cases label with
  | start call arguments =>
    simp only [step, Option.ite_none_right_eq_some, Option.some.injEq] at stepped
    obtain ⟨_, rfl⟩ := stepped
    refine ⟨.nothing rfl, fun other => ?_⟩
    dsimp only
    by_cases same : other = call
    · rw [same, Function.update_self]
      cases arguments <;> trivial
    · rw [Function.update_of_ne same]
      exact steady.placed other
  | proceed call =>
    simp only [step, Option.map_eq_some_iff, Prod.exists] at stepped
    obtain ⟨after, next, stepped, rfl⟩ := stepped
    obtain ⟨did, placed⟩ := callStep_did (steady.placed call) stepped
    refine ⟨did, fun other => ?_⟩
    dsimp only
    by_cases same : other = call
    · rw [same, Function.update_self]
      exact placed
    · rw [Function.update_of_ne same]
      exact (steady.placed other).later did.extends
  | record row =>
    simp only [step, Option.ite_none_right_eq_some, Option.map_eq_some_iff] at stepped
    obtain ⟨foreign, events, inserted, rfl⟩ := stepped
    have did : Did s.db { s.db with events } := .appended row (.foreign foreign) events inserted rfl
    exact ⟨did, fun call => (steady.placed call).later did.extends⟩
  | register workspace =>
    simp only [step, Option.map_eq_some_iff] at stepped
    obtain ⟨workspaces, inserted, rfl⟩ := stepped
    have did : Did s.db { s.db with workspaces } := .registered workspace workspaces inserted rfl
    exact ⟨did, fun call => (steady.placed call).later did.extends⟩

/-- The step lemma. -/
theorem Steady.step (steady : Steady s) {label : Label} (stepped : step s label = some u) :
    Steady u := by
  obtain ⟨did, placed⟩ := step_did steady stepped
  exact ⟨did.kept steady.kept, placed⟩

omit [Platform] in
theorem Initial.steady (initial : Initial s) : Steady s := by
  refine ⟨⟨fun row member type => ?_, fun row member terminal => ?_, fun _ a pending => ?_⟩,
    fun call => ?_⟩
  · have foreign := initial.foreign row member
    simp [isForeign, type] at foreign
  · have foreign := initial.foreign row member
    simp [isForeign, terminal] at foreign
  · obtain ⟨member, type, -⟩ := mem_pendingRequests.mp pending
    have foreign := initial.foreign a member
    simp [isForeign, type] at foreign
  · rw [initial.idle]
    trivial

/-- The run lemma. -/
theorem steady_of_run (initial : Initial s) (run : calls.Reaches Machine.anyStep s t) : Steady t :=
  run.invariant (fun _ _ _ steady _ stepped => steady.step stepped) initial.steady

theorem extends_of_run (steady : Steady s) (run : calls.Reaches Machine.anyStep s t) :
    Steady t ∧ Extends s.db t.db :=
  run.invariant
    (P := fun t => Steady t ∧ Extends s.db t.db)
    (fun _ _ _ ⟨steady, extends_⟩ _ stepped =>
      ⟨steady.step stepped, extends_.trans (step_did steady stepped).1.extends⟩)
    ⟨steady, Extends.refl _⟩

/-- The statements that a request has before it at most. -/
def RequestPoint.left : RequestPoint → Nat
  | .entering => 3
  | .looking => 2
  | .writing => 1
  | .projecting _ => 0

/-- A call of a request that repeats the key of a recorded request of its workspace. -/
structure Repeats (s : State) (call : Nat) (asked : Asked) (point : RequestPoint) (row : EventRow)
    (recorded : Asked) : Prop where
  phase : s.phase call = .requesting asked point
  member : row ∈ s.db.events
  records : Records row recorded
  workspace : asked.workspace = recorded.workspace
  callerKey : asked.callerKey = recorded.callerKey

/-- The call goes on, or returns in this way. -/
def GoesOn (u : State) (call : Nat) (asked : Asked) (point : RequestPoint) (returned : Outcome → Prop) :
    Prop :=
  (∃ later, u.phase call = .requesting asked later ∧ later.left < point.left) ∨
    ∃ outcome, u.phase call = .returned outcome ∧ returned outcome

section Repetition

variable {call : Nat} {asked recorded : Asked} {point : RequestPoint} {row : EventRow}

omit [Platform] in
theorem Repeats.key (repeats : Repeats s call asked point row recorded) :
    row.idempotencyKey = asked.key := by
  rw [repeats.records.key, Asked.key, Asked.key, repeats.workspace, repeats.callerKey]

omit [Platform] in
theorem Repeats.found (repeats : Repeats s call asked point row recorded) :
    findEventByKey s.db asked.key = some row :=
  findEventByKey_eq_some.mpr ⟨repeats.member, repeats.key⟩

omit [Platform] in
/-- The parameters match exactly if they are those of the request. -/
theorem Repeats.matches_iff (repeats : Repeats s call asked point row recorded) {u : Unit} :
    assertRequestMatches row asked = .ok u ↔ recorded = asked := by
  rw [assertRequestMatches_iff repeats.key]
  constructor
  · exact records_unique repeats.records
  · rintro rfl
    exact repeats.records

theorem recordRequest_run {w : Work Db} (found : findEventByKey w.store asked.key = some row) :
    (recordRequest asked).run w = match assertRequestMatches row asked with
      | .ok _ => .ok row w
      | .error e => .error e w := by
  unfold recordRequest
  simp only [Txn.bind_run, Txn.read_run, found]
  cases assertRequestMatches row asked <;> rfl

/-- What a step of such a call does. -/
theorem Repeats.step (steady : Steady s) (repeats : Repeats s call asked point row recorded) :
    ∃ u, Provisioning.step s (.proceed call) = some u ∧ u.db = s.db ∧
      (recorded = asked → GoesOn u call asked point fun outcome =>
        ∃ p, projectRequest s.db row = .ok p ∧ outcome = .projected p) ∧
      (recorded ≠ asked → GoesOn u call asked point fun outcome => ∃ e, outcome = .raised e) := by
  have stepped : ∀ {phase : Phase},
      callStep s.work (.requesting asked point) = some (s.work, phase) →
      Provisioning.step s (.proceed call) = some ⟨s.work, Function.update s.phase call phase⟩ := by
    intro phase same
    simp only [Provisioning.step, repeats.phase, same, Option.map_some]
  have goes : ∀ {phase : Phase} (returned : Outcome → Prop),
      ((∃ later, phase = .requesting asked later ∧ later.left < point.left) ∨
        ∃ outcome, phase = .returned outcome ∧ returned outcome) →
      GoesOn ⟨s.work, Function.update s.phase call phase⟩ call asked point returned := by
    intro phase returned next
    simp only [GoesOn, Function.update_self]
    exact next
  cases point with
  | entering =>
    refine ⟨_, stepped rfl, rfl, fun same => goes _ (.inl ?_), fun differ => goes _ ?_⟩
    · obtain ⟨other, records, checked⟩ :=
        steady.kept.requests row repeats.member repeats.records.type
      rw [records_unique records repeats.records, same] at checked
      rw [checked]
      exact ⟨.looking, rfl, by decide⟩
    · cases asked.check s.work.store with
      | ok _ => exact .inl ⟨.looking, rfl, by decide⟩
      | error e => exact .inr ⟨_, rfl, e, rfl⟩
  | looking =>
    have next : callStep s.work (.requesting asked .looking) = some (s.work, resume do
        assertRequestMatches row asked
        return .requesting asked (.projecting row)) := by
      simp only [callStep, requestStep, repeats.found]
    refine ⟨_, stepped next, rfl, fun same => goes _ (.inl ?_), fun differ => goes _ (.inr ?_)⟩
    · rw [repeats.matches_iff (u := ()) |>.mpr same]
      exact ⟨.projecting row, rfl, (by decide : 0 < 2)⟩
    · cases matching : assertRequestMatches row asked with
      | ok _ => exact absurd (repeats.matches_iff.mp matching) differ
      | error e => exact ⟨_, rfl, e, rfl⟩
  | writing =>
    have ran := recordRequest_run repeats.found
    cases matching : assertRequestMatches row asked with
    | ok _ =>
      rw [matching] at ran
      have next : callStep s.work (.requesting asked .writing) =
          some (s.work, .requesting asked (.projecting row)) := by
        simp only [callStep, requestStep, transact, ran]
      refine ⟨_, stepped next, rfl, fun _ => goes _ (.inl ⟨_, rfl, (by decide : 0 < 1)⟩),
        fun differ => ?_⟩
      exact absurd (repeats.matches_iff.mp matching) differ
    | error e =>
      rw [matching] at ran
      have next : callStep s.work (.requesting asked .writing) =
          some (s.work, .returned (.raised e)) := by
        simp only [callStep, requestStep, transact, ran]
      refine ⟨_, stepped next, rfl, fun same => ?_, fun _ => goes _ (.inr ⟨_, rfl, e, rfl⟩)⟩
      rw [repeats.matches_iff (u := ()) |>.mpr same] at matching
      cases matching
  | projecting found =>
    have placed := steady.placed call
    rw [repeats.phase] at placed
    have own : found = row :=
      event_unique placed.1 repeats.member (placed.2.key.trans repeats.key.symm)
    rw [own] at placed
    have same := records_unique repeats.records placed.2
    obtain ⟨p, projected, -⟩ := steady.kept.project placed.2
    have next : callStep s.work (.requesting asked (.projecting found)) =
        some (s.work, .returned (.projected p)) := by
      simp only [callStep, requestStep, own]
      rw [projected]
      rfl
    exact ⟨_, stepped next, rfl, fun _ => goes _ (.inr ⟨_, rfl, p, projected, rfl⟩),
      fun differ => absurd same differ⟩

end Repetition

/-- What holds of the requests in every state of a run. -/
structure Sound (s : State) : Prop where
  single : ∀ workspaceId, (pendingRequests s.db (some workspaceId)).length ≤ 1
  decided : ∀ id, (terminalsOf s.db id).length ≤ 1 ∧
    ∃ terminal, terminalForRequest s.db id = .ok terminal
  projects : ∀ row ∈ s.db.events, row.eventType = requestEventType →
    ∃ p, projectRequest s.db row = .ok p
  final : ∀ t row p, calls.Reaches Machine.anyStep s t → row ∈ s.db.events →
    row.eventType = requestEventType → projectRequest s.db row = .ok p → p.status ≠ .pending →
    projectRequest t.db row = .ok p
  listed : ∀ t row, calls.Reaches Machine.anyStep s t → row ∈ pendingRequests s.db none →
    row ∈ pendingRequests t.db none ∨
      ∃ terminal, terminalForRequest t.db row.id = .ok (some terminal)
  repeats : ∀ call asked point row recorded, Repeats s call asked point row recorded →
    ∃ u, step s (.proceed call) = some u ∧ u.db = s.db ∧
      (recorded = asked → GoesOn u call asked point fun outcome =>
        ∃ p, projectRequest s.db row = .ok p ∧ outcome = .projected p) ∧
      (recorded ≠ asked → GoesOn u call asked point fun outcome => ∃ e, outcome = .raised e)

theorem Steady.sound (steady : Steady s) : Sound s where
  single := steady.kept.pending_le
  decided id := ⟨steady.kept.terminalsOf_le id, _, steady.kept.terminalForRequest id⟩
  projects row member type := by
    obtain ⟨asked, records, -⟩ := steady.kept.requests row member type
    obtain ⟨p, projected, -⟩ := steady.kept.project records
    exact ⟨p, projected⟩
  final t row p run member type projected ended := by
    obtain ⟨later, extends_⟩ := extends_of_run steady run
    obtain ⟨asked, records, -⟩ := steady.kept.requests row member type
    obtain ⟨q, projectedAs, -, -, -, open_⟩ := steady.kept.project records
    rw [projected] at projectedAs
    cases projectedAs
    have some : terminalsOf s.db row.id ≠ [] := fun none => ended (open_.mpr none)
    rw [projectRequest_congr (extends_.terminalForRequest steady.kept later.kept some)]
    exact projected
  listed t row run pending := by
    obtain ⟨later, extends_⟩ := extends_of_run steady run
    obtain ⟨member, type, -, -⟩ := mem_pendingRequests.mp pending
    cases terminals : terminalsOf t.db row.id with
    | nil =>
      exact .inl (mem_pendingRequests.mpr ⟨extends_.mem member, type, terminals, .inl rfl⟩)
    | cons terminal rest =>
      refine .inr ⟨terminal, ?_⟩
      rw [later.kept.terminalForRequest, terminals]
      rfl
  repeats _ _ _ _ _ repeated := repeated.step steady

/-- **Channel provisioning.** In every run of requests, finishes, lists and other programs, from a
database without requests, a workspace has one pending request at most, a request one outcome at most,
which stays, a pending request stays listed until it has one, and a repeated key writes nothing and is
answered with the projection of its request, or with an exception where the parameters differ. -/
theorem provisioning_sound (initial : Initial s) (run : calls.Reaches Machine.anyStep s t) : Sound t :=
  (steady_of_run initial run).sound

end Steps

namespace Sample

def start : State := ⟨⟨Db.empty, 0, 0⟩, fun _ => .idle⟩

theorem start_initial : Initial start := ⟨nofun, fun _ => rfl⟩

def asking : Call := .request ⟨some "w", "general", some "a", some "k"⟩

/-- The identifier that the first request draws. -/
def firstRequest : FinishArguments := ⟨Coordinate.Sample.uuid 0, some "5", none⟩

/-- Two clients ask with one key, and the daemon finishes the request. -/
def labels : List Label :=
  [.register { id := "w", path := "/w", harnessRoot := "/w" }, .start 0 asking, .start 1 asking,
    .proceed 0, .proceed 1, .proceed 0, .proceed 1, .proceed 0, .proceed 1, .proceed 0,
    .start 2 (.finish firstRequest), .proceed 2, .proceed 2, .proceed 2, .proceed 2, .proceed 1]

def repeated (s : State) : Bool :=
  match s.phase 1 with
  | .returned (.projected p) => p.status = .provisioned (.str "5")
  | _ => false

theorem sample_sound : ∃ s, repeated s = true ∧ Sound s := by
  obtain ⟨s, run, returned⟩ : ∃ s, calls.Reaches Machine.anyStep start s ∧ repeated s = true :=
    @Machine.exists_reaches _ _ _ _ _ (fun _ _ => true) _ (fun _ _ _ => trivial) labels
      (by decide +kernel)
  exact ⟨s, returned, provisioning_sound start_initial run⟩

end Sample

end Coordinate.Provisioning

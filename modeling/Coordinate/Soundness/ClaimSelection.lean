import Coordinate.Model.Installation
import Coordinate.Proofs.Claims
import Coordinate.Proofs.ExecutorRouting

/-! # First in, first out in a claim

The scan of a claim stops at the oldest job whose resource no active lease holds. It takes that job if its
authority holds, and raises otherwise; without capacity it does not look at the jobs.
-/

namespace Coordinate

section Order

/-- The key that orders the claim queue. -/
def JobRow.queueKey (job : JobRow) : ℕ ×ₗ String := toLex (job.createdAt, job.id)

theorem queueOrder_iff (a b : JobRow) : queueOrder a b = true ↔ a.queueKey < b.queueKey := by
  simp [queueOrder, JobRow.queueKey, Prod.Lex.toLex_lt_toLex]

variable {db : Db} {recoverable : Bool} {agentId : String}

/-- The claim queue is strictly ordered: identifiers are unique. -/
theorem claimQueue_ordered : (claimQueue db recoverable agentId).Pairwise (queueOrder · · = true) := by
  refine pairwise_sortBy (fun a b c first second => ?_) ?_
  · rw [queueOrder_iff] at first second ⊢
    exact first.trans second
  · refine (db.jobs.distinct.filter _).imp fun {a b} apart => ?_
    rw [queueOrder_iff, queueOrder_iff]
    have differ : b.queueKey ≠ a.queueKey := by
      intro same
      have ids : b.id = a.id := congrArg (fun key => (ofLex key).2) same
      exact of_decide_eq_false apart ids.symm
    exact lt_or_gt_of_ne differ

theorem claimRows_ordered : (claimRows db recoverable agentId).Pairwise (queueOrder · · = true) :=
  claimQueue_ordered.sublist (List.take_sublist _ _)

/-- An older claimable job is scanned where a younger one is. -/
theorem older_scanned {job other : JobRow} (scanned : job ∈ claimRows db recoverable agentId)
    (member : other ∈ db.jobs) (claimable : isClaimable recoverable agentId other = true)
    (older : queueOrder other job = true) : other ∈ claimRows db recoverable agentId := by
  have queued : other ∈ claimQueue db recoverable agentId := mem_claimQueue.mpr ⟨member, claimable⟩
  rw [← List.take_append_drop leaseClaimScanLimit (claimQueue db recoverable agentId), List.mem_append] at queued
  rcases queued with inside | outside
  · exact inside
  · have ordered : (claimQueue db recoverable agentId).Pairwise (queueOrder · · = true) := claimQueue_ordered
    rw [← List.take_append_drop leaseClaimScanLimit (claimQueue db recoverable agentId),
      List.pairwise_append] at ordered
    have younger := ordered.2.2 job scanned other outside
    rw [queueOrder_iff] at older younger
    exact absurd (older.trans younger) (lt_irrefl _)

end Order

section Scan

variable [Platform] {db : Db} {agentId hostId : String} {job : JobRow} {rows : List JobRow}

/-- A job whose authority holds while an active lease holds its resource. -/
structure Blocked (db : Db) (agentId hostId : String) (job : JobRow) (resourceKey : String) : Prop where
  authority : ∃ authority, validateClaimAuthority db job agentId hostId = .ok authority ∧
    authority.resourceKey = resourceKey
  lease : ∃ lease ∈ db.leases, lease.resourceKey = resourceKey ∧ lease.status = .active
  intact : ∀ lease ∈ db.leases, lease.resourceKey = resourceKey → lease.status = .active →
    validateStoredResource lease = .ok ()

/-- A job whose authority holds and whose resource no active lease holds. -/
structure Takeable (db : Db) (agentId hostId : String) (job : JobRow) (authority : ValidatedAuthority) : Prop where
  valid : validateClaimAuthority db job agentId hostId = .ok authority
  free : ∀ lease ∈ db.leases, lease.resourceKey = authority.resourceKey → lease.status ≠ .active

/-- A job whose authority does not hold, or whose resource is held by a tampered lease. -/
def Refuses (db : Db) (agentId hostId : String) (job : JobRow) (e : Exn) : Prop :=
  validateClaimAuthority db job agentId hostId = .error e ∨
    ∃ authority problem, validateClaimAuthority db job agentId hostId = .ok authority ∧
      findActiveResourceLease db authority.resourceKey = .error problem ∧ e = .lease problem

theorem findActiveResourceLease_ok {key : String} {found : Option LeaseRow} :
    findActiveResourceLease db key = .ok found ↔
      (∀ lease ∈ db.leases, lease.resourceKey = key → lease.status = .active →
        validateStoredResource lease = .ok ()) ∧
      found = (db.leases.filter fun lease => lease.resourceKey = key && lease.status = .active).head? := by
  refine Except.bind_ok.trans ?_
  constructor
  · rintro ⟨_, checked, same⟩
    refine ⟨fun lease member own active => forM_iff.mp checked lease ?_, (Except.ok.inj same).symm⟩
    exact Table.mem_filter.mpr ⟨member, by simp [own, active]⟩
  · rintro ⟨intact, rfl⟩
    refine ⟨(), forM_iff.mpr fun lease member => ?_, rfl⟩
    obtain ⟨member, holds⟩ := Table.mem_filter.mp member
    simp only [Bool.and_eq_true, decide_eq_true_eq] at holds
    exact intact lease member holds.1 holds.2

theorem findActiveResourceLease_none {key : String} : findActiveResourceLease db key = .ok none ↔
    ∀ lease ∈ db.leases, lease.resourceKey = key → lease.status ≠ .active := by
  rw [findActiveResourceLease_ok, eq_comm, List.head?_eq_none_iff, List.eq_nil_iff_forall_not_mem]
  simp only [Table.mem_filter, Bool.and_eq_true, decide_eq_true_eq, not_and]
  constructor
  · exact And.right
  · intro free
    exact ⟨fun lease member own active => absurd active (free lease member own), free⟩

theorem findActiveResourceLease_some {key : String} :
    (∃ lease, findActiveResourceLease db key = .ok (some lease)) ↔
      (∃ lease ∈ db.leases, lease.resourceKey = key ∧ lease.status = .active) ∧
        ∀ lease ∈ db.leases, lease.resourceKey = key → lease.status = .active →
          validateStoredResource lease = .ok () := by
  simp only [findActiveResourceLease_ok]
  constructor
  · rintro ⟨lease, intact, first⟩
    obtain ⟨member, holds⟩ := Table.mem_filter.mp (List.mem_of_head? first.symm)
    simp only [Bool.and_eq_true, decide_eq_true_eq] at holds
    exact ⟨⟨lease, member, holds⟩, intact⟩
  · rintro ⟨⟨lease, member, own, active⟩, intact⟩
    have some : lease ∈ db.leases.filter fun lease => lease.resourceKey = key && lease.status = .active :=
      Table.mem_filter.mpr ⟨member, by simp [own, active]⟩
    obtain ⟨first, rest, whole⟩ := List.exists_cons_of_ne_nil (List.ne_nil_of_mem some)
    exact ⟨first, intact, by rw [whole]; rfl⟩

/-- A scanned job is blocked, is taken or stops the scan. -/
theorem blocked_or_takeable_or_refuses (job : JobRow) : (∃ key, Blocked db agentId hostId job key) ∨
    (∃ authority, Takeable db agentId hostId job authority) ∨ ∃ e, Refuses db agentId hostId job e := by
  cases valid : validateClaimAuthority db job agentId hostId with
  | error e => exact .inr (.inr ⟨e, .inl valid⟩)
  | ok authority =>
    cases found : findActiveResourceLease db authority.resourceKey with
    | error problem => exact .inr (.inr ⟨_, .inr ⟨authority, problem, valid, found, rfl⟩⟩)
    | ok held =>
      cases held with
      | none => exact .inr (.inl ⟨authority, valid, findActiveResourceLease_none.mp found⟩)
      | some lease =>
        obtain ⟨lease, intact⟩ := findActiveResourceLease_some.mp ⟨lease, found⟩
        exact .inl ⟨_, ⟨authority, valid, rfl⟩, lease, intact⟩

theorem scan_blocked {key : String} {blocked : BlockedCandidate} (held : Blocked db agentId hostId job key) :
    scanCandidates db agentId hostId blocked (job :: rows) =
      scanCandidates db agentId hostId (blocked.or (some (job.id, key))) rows := by
  obtain ⟨⟨authority, valid, rfl⟩, lease, intact⟩ := held
  obtain ⟨lease, found⟩ := findActiveResourceLease_some.mpr ⟨lease, intact⟩
  simp only [scanCandidates, valid, found, orRaise, bind, Except.bind, pure, Except.pure]

theorem scan_takeable {authority : ValidatedAuthority} {blocked : BlockedCandidate}
    (takeable : Takeable db agentId hostId job authority) :
    scanCandidates db agentId hostId blocked (job :: rows) = .ok (some (job, authority), blocked) := by
  have found := findActiveResourceLease_none.mpr takeable.free
  simp only [scanCandidates, takeable.valid, found, orRaise, bind, Except.bind, pure, Except.pure]

theorem scan_refuses {e : Exn} {blocked : BlockedCandidate} (refuses : Refuses db agentId hostId job e) :
    scanCandidates db agentId hostId blocked (job :: rows) = .error e := by
  obtain invalid | ⟨authority, problem, valid, found, rfl⟩ := refuses
  · rw [scanCandidates, invalid]
    rfl
  · simp only [scanCandidates, valid, found, orRaise, bind, Except.bind, throw, throwThe, MonadExceptOf.throw]

/-- A job that is taken is not blocked. -/
theorem Takeable.not_blocked {authority : ValidatedAuthority} (takeable : Takeable db agentId hostId job authority) :
    ¬ ∃ key, Blocked db agentId hostId job key := by
  rintro ⟨key, blocked⟩
  have scan := (@scan_takeable _ _ _ _ _ [] _ none takeable).symm.trans (scan_blocked blocked)
  cases scan

/-- A job that stops the scan is not blocked. -/
theorem Refuses.not_blocked {e : Exn} (refuses : Refuses db agentId hostId job e) :
    ¬ ∃ key, Blocked db agentId hostId job key := by
  rintro ⟨key, blocked⟩
  have scan := (@scan_refuses _ _ _ _ _ [] _ none refuses).symm.trans (scan_blocked blocked)
  cases scan

/-- The oldest of the jobs in front, with its resource. -/
def Oldest (db : Db) (agentId hostId : String) : List JobRow → BlockedCandidate → Prop
  | [], blocked => blocked = none
  | job :: _, blocked => ∃ key, Blocked db agentId hostId job key ∧ blocked = some (job.id, key)

theorem scan_later (blocked : String × String) {front : List JobRow}
    (held : ∀ job ∈ front, ∃ key, Blocked db agentId hostId job key) :
    scanCandidates db agentId hostId (some blocked) (front ++ rows) =
      scanCandidates db agentId hostId (some blocked) rows := by
  induction front with
  | nil => rfl
  | cons job front ih =>
    obtain ⟨⟨key, own⟩, later⟩ := List.forall_mem_cons.mp held
    rw [List.cons_append, scan_blocked own]
    exact ih later

/-- The scan goes on behind blocked jobs, with the oldest of them. -/
theorem scan_behind {front : List JobRow} (held : ∀ job ∈ front, ∃ key, Blocked db agentId hostId job key) :
    ∃ blocked, Oldest db agentId hostId front blocked ∧
      scanCandidates db agentId hostId none (front ++ rows) = scanCandidates db agentId hostId blocked rows := by
  cases front with
  | nil => exact ⟨none, rfl, rfl⟩
  | cons job front =>
    obtain ⟨⟨key, own⟩, later⟩ := List.forall_mem_cons.mp held
    refine ⟨some (job.id, key), ⟨key, own, rfl⟩, ?_⟩
    rw [List.cons_append, scan_blocked own]
    exact scan_later _ later

/-- Every list of jobs begins with blocked ones, up to one that is not. -/
theorem exists_front (rows : List JobRow) : ∃ front rest, rows = front ++ rest ∧
    (∀ job ∈ front, ∃ key, Blocked db agentId hostId job key) ∧
      (rest = [] ∨ ∃ job later, rest = job :: later ∧ ((∃ authority, Takeable db agentId hostId job authority) ∨
        ∃ e, Refuses db agentId hostId job e)) := by
  induction rows with
  | nil => exact ⟨[], [], rfl, List.forall_mem_nil _, .inl rfl⟩
  | cons job rows ih =>
    rcases @blocked_or_takeable_or_refuses _ db agentId hostId job with blocked | stops
    · obtain ⟨front, rest, rfl, held, ends⟩ := ih
      exact ⟨job :: front, rest, rfl, List.forall_mem_cons.mpr ⟨blocked, held⟩, ends⟩
    · exact ⟨[], job :: rows, rfl, List.forall_mem_nil _, .inr ⟨job, rows, rfl, stops⟩⟩

/-- How a scan ends. -/
inductive Scans (db : Db) (agentId hostId : String) (rows : List JobRow) : Prop
  | exhausted (blocked : BlockedCandidate) (held : ∀ job ∈ rows, ∃ key, Blocked db agentId hostId job key)
      (oldest : Oldest db agentId hostId rows blocked)
      (scan : scanCandidates db agentId hostId none rows = .ok (none, blocked))
  | takes (front : List JobRow) (job : JobRow) (later : List JobRow) (authority : ValidatedAuthority)
      (blocked : BlockedCandidate) (whole : rows = front ++ job :: later)
      (held : ∀ job ∈ front, ∃ key, Blocked db agentId hostId job key)
      (takeable : Takeable db agentId hostId job authority)
      (scan : scanCandidates db agentId hostId none rows = .ok (some (job, authority), blocked))
  | stops (front : List JobRow) (job : JobRow) (later : List JobRow) (e : Exn) (whole : rows = front ++ job :: later)
      (held : ∀ job ∈ front, ∃ key, Blocked db agentId hostId job key) (refuses : Refuses db agentId hostId job e)
      (scan : scanCandidates db agentId hostId none rows = .error e)

theorem scans (rows : List JobRow) : Scans db agentId hostId rows := by
  obtain ⟨front, rest, whole, held, rfl | ⟨job, later, rfl, ⟨authority, takeable⟩ | ⟨e, refuses⟩⟩⟩ :=
    @exists_front _ db agentId hostId rows
  · obtain ⟨blocked, oldest, scan⟩ := @scan_behind _ _ _ _ [] _ held
    rw [← whole] at scan
    rw [List.append_nil] at whole
    subst whole
    exact .exhausted blocked held oldest scan
  · obtain ⟨blocked, oldest, scan⟩ := @scan_behind _ _ _ _ (job :: later) _ held
    rw [← whole, scan_takeable takeable] at scan
    exact .takes front job later authority blocked whole held takeable scan
  · obtain ⟨blocked, oldest, scan⟩ := @scan_behind _ _ _ _ (job :: later) _ held
    rw [← whole, scan_refuses refuses] at scan
    exact .stops front job later e whole held refuses scan

/-- The older ones of a list are blocked. -/
def OlderBlocked (db : Db) (agentId hostId : String) (rows : List JobRow) (job : JobRow) : Prop :=
  ∀ other ∈ rows, queueOrder other job = true → ∃ key, Blocked db agentId hostId other key

theorem olderBlocked_of_front {front later : List JobRow}
    (ordered : (front ++ job :: later).Pairwise (queueOrder · · = true))
    (held : ∀ job ∈ front, ∃ key, Blocked db agentId hostId job key) :
    OlderBlocked db agentId hostId (front ++ job :: later) job := by
  intro other member older
  rcases List.mem_append.mp member with inFront | behind
  · exact held other inFront
  · have loop : queueOrder job job = true := by
      rcases List.mem_cons.mp behind with rfl | inLater
      · exact older
      · have younger := (List.pairwise_cons.mp (List.pairwise_append.mp ordered).2.1).1 other inLater
        rw [queueOrder_iff] at older younger ⊢
        exact younger.trans older
    rw [queueOrder_iff] at loop
    exact absurd loop (lt_irrefl _)

/-- The first job that is not blocked is the oldest that is not. -/
theorem eq_of_olderBlocked {front later : List JobRow} {other : JobRow}
    (ordered : (front ++ job :: later).Pairwise (queueOrder · · = true))
    (held : ∀ job ∈ front, ∃ key, Blocked db agentId hostId job key)
    (unblocked : ¬ ∃ key, Blocked db agentId hostId job key)
    (member : other ∈ front ++ job :: later) (unblocked' : ¬ ∃ key, Blocked db agentId hostId other key)
    (older : OlderBlocked db agentId hostId (front ++ job :: later) other) : other = job := by
  rcases List.mem_append.mp member with inFront | behind
  · exact absurd (held other inFront) unblocked'
  · rcases List.mem_cons.mp behind with same | inLater
    · exact same
    · have before := (List.pairwise_cons.mp (List.pairwise_append.mp ordered).2.1).1 other inLater
      exact absurd (older job (List.mem_append_right _ List.mem_cons_self) before) unblocked

theorem scan_selected_iff (ordered : rows.Pairwise (queueOrder · · = true)) {authority : ValidatedAuthority} :
    (∃ blocked, scanCandidates db agentId hostId none rows = .ok (some (job, authority), blocked)) ↔
      job ∈ rows ∧ Takeable db agentId hostId job authority ∧ OlderBlocked db agentId hostId rows job := by
  cases @scans _ db agentId hostId rows with
  | exhausted blocked held oldest scan =>
    constructor
    · rintro ⟨_, scan'⟩
      cases scan.symm.trans scan'
    · rintro ⟨member, takeable, -⟩
      exact absurd (held job member) takeable.not_blocked
  | takes front first later found blocked whole held takeable scan =>
    subst whole
    constructor
    · rintro ⟨_, scan'⟩
      cases scan.symm.trans scan'
      exact ⟨List.mem_append_right _ List.mem_cons_self, takeable, olderBlocked_of_front ordered held⟩
    · rintro ⟨member, takeable', older⟩
      cases eq_of_olderBlocked ordered held takeable.not_blocked member takeable'.not_blocked older
      cases takeable.valid.symm.trans takeable'.valid
      exact ⟨blocked, scan⟩
  | stops front first later e whole held refuses scan =>
    subst whole
    constructor
    · rintro ⟨_, scan'⟩
      cases scan.symm.trans scan'
    · rintro ⟨member, takeable, older⟩
      cases eq_of_olderBlocked ordered held refuses.not_blocked member takeable.not_blocked older
      have twice := (@scan_takeable _ _ _ _ _ [] _ none takeable).symm.trans (scan_refuses refuses)
      cases twice

theorem scan_exhausted_iff {blocked : BlockedCandidate} :
    scanCandidates db agentId hostId none rows = .ok (none, blocked) ↔
      (∀ job ∈ rows, ∃ key, Blocked db agentId hostId job key) ∧ Oldest db agentId hostId rows blocked := by
  constructor
  · intro scan'
    cases @scans _ db agentId hostId rows with
    | exhausted found held oldest scan =>
      cases scan.symm.trans scan'
      exact ⟨held, oldest⟩
    | takes _ _ _ _ _ _ _ _ scan => cases scan.symm.trans scan'
    | stops _ _ _ _ _ _ _ scan => cases scan.symm.trans scan'
  · rintro ⟨held, oldest⟩
    obtain ⟨found, oldest', scan⟩ := @scan_behind _ _ _ _ [] _ held
    rw [List.append_nil] at scan
    rw [scan]
    have same : found = blocked := by
      cases rows with
      | nil => exact oldest'.trans oldest.symm
      | cons job rows =>
        obtain ⟨key, own, rfl⟩ := oldest
        obtain ⟨key', own', rfl⟩ := oldest'
        have keys := (@scan_blocked _ _ _ _ _ [] _ none own).symm.trans (scan_blocked own')
        cases keys
        rfl
    rw [same]
    rfl

theorem scan_raises_iff (ordered : rows.Pairwise (queueOrder · · = true)) {e : Exn} :
    scanCandidates db agentId hostId none rows = .error e ↔
      ∃ job ∈ rows, Refuses db agentId hostId job e ∧ OlderBlocked db agentId hostId rows job := by
  cases @scans _ db agentId hostId rows with
  | exhausted blocked held oldest scan =>
    constructor
    · intro scan'
      cases scan.symm.trans scan'
    · rintro ⟨job, member, refuses, -⟩
      exact absurd (held job member) refuses.not_blocked
  | takes front first later found blocked whole held takeable scan =>
    subst whole
    constructor
    · intro scan'
      cases scan.symm.trans scan'
    · rintro ⟨job, member, refuses, older⟩
      cases eq_of_olderBlocked ordered held takeable.not_blocked member refuses.not_blocked older
      have twice := (@scan_takeable _ _ _ _ _ [] _ none takeable).symm.trans (scan_refuses refuses)
      cases twice
  | stops front first later e' whole held refuses scan =>
    subst whole
    constructor
    · intro scan'
      cases scan.symm.trans scan'
      exact ⟨first, List.mem_append_right _ List.mem_cons_self, refuses, olderBlocked_of_front ordered held⟩
    · rintro ⟨job, member, refuses', older⟩
      cases eq_of_olderBlocked ordered held refuses.not_blocked member refuses'.not_blocked older
      have twice := (@scan_refuses _ _ _ _ _ [] _ none refuses).symm.trans (scan_refuses refuses')
      cases twice
      exact scan

end Scan

section Selection

variable [Platform] {w w' : Work Db} {agentId hostId : String} {recoverable : Bool}

/-- The agent has a capacity policy that its active, unexpired leases do not use up. -/
def HasCapacity (db : Db) (agentId : String) (current : Nat) : Prop :=
  ∃ policy count, resolveCapacityPolicy db agentId = some policy ∧
    countActiveLeasesForAgent db agentId current = .ok count ∧ (count : Int) < policy.maxConcurrentJobs

/-- The agent has no capacity policy, or its active, unexpired leases use it up. -/
def LacksCapacity (db : Db) (agentId : String) (current : Nat) : Prop :=
  ∀ policy, resolveCapacityPolicy db agentId = some policy → ∃ count,
    countActiveLeasesForAgent db agentId current = .ok count ∧ policy.maxConcurrentJobs ≤ (count : Int)

/-- A selection, by how the agent's capacity and the scan of its queue end. -/
theorem selectClaimCandidate_run : (selectClaimCandidate agentId hostId recoverable).run w =
    if claimRows w.store recoverable agentId = [] then .ok (.refused "queue_empty" none) w
    else match resolveCapacityPolicy w.store agentId with
      | none => .ok (.refused "capacity_exhausted" none) w
      | some policy =>
        match countActiveLeasesForAgent w.store agentId (now w.tick) with
        | .error e => .error (.lease e) { w with tick := w.tick + 1 }
        | .ok count =>
          if (count : Int) ≥ policy.maxConcurrentJobs then
            .ok (.refused "capacity_exhausted" none) { w with tick := w.tick + 1 }
          else match scanCandidates w.store agentId hostId none (claimRows w.store recoverable agentId) with
            | .error e => .error e { w with tick := w.tick + 1 }
            | .ok (some (job, authority), _) => .ok (.selected job authority) { w with tick := w.tick + 1 }
            | .ok (none, blocked) =>
              if (claimRows w.store recoverable agentId).length ≥ leaseClaimScanLimit then
                .ok (.refused "scan_limit_reached" blocked) { w with tick := w.tick + 1 }
              else .ok (.refused "resource_blocked" blocked) { w with tick := w.tick + 1 } := by
  rw [selectClaimCandidate, Txn.bind_run, Txn.read_run]
  dsimp only [id_eq]
  by_cases empty : claimRows w.store recoverable agentId = []
  · rw [if_pos empty, if_pos empty]
    rfl
  rw [if_neg empty, if_neg empty]
  cases resolveCapacityPolicy w.store agentId with
  | none => rfl
  | some policy =>
    dsimp only
    rw [Txn.bind_run, utcNow_run]
    dsimp only
    rw [Txn.bind_run]
    cases countActiveLeasesForAgent w.store agentId (now w.tick) with
    | error e => rfl
    | ok count =>
      dsimp only [orRaise, Txn.pure_run]
      by_cases full : (count : Int) ≥ policy.maxConcurrentJobs
      · rw [if_pos full, if_pos full]
        rfl
      rw [if_neg full, if_neg full, Txn.bind_run]
      cases scanCandidates w.store agentId hostId none (claimRows w.store recoverable agentId) with
      | error e => rfl
      | ok found =>
        obtain ⟨selected, blocked⟩ := found
        cases selected with
        | some chosen => rfl
        | none =>
          dsimp only [orRaise, Txn.pure_run]
          split_ifs <;> rfl

/-- The selection returns an outcome. -/
def Returns (w : Work Db) (agentId hostId : String) (recoverable : Bool) (selection : Selection) : Prop :=
  ∃ w', (selectClaimCandidate agentId hostId recoverable).run w = .ok selection w'

/-- Why a selection reports no candidate, with the oldest blocked job. -/
inductive NoCandidate (w : Work Db) (agentId hostId : String) (recoverable : Bool) :
    String → BlockedCandidate → Prop
  | queueEmpty (unclaimed : claimRows w.store recoverable agentId = []) :
      NoCandidate w agentId hostId recoverable "queue_empty" none
  | capacityExhausted (nonempty : claimRows w.store recoverable agentId ≠ [])
      (lacks : LacksCapacity w.store agentId (now w.tick)) :
      NoCandidate w agentId hostId recoverable "capacity_exhausted" none
  | scanLimitReached (blocked : BlockedCandidate) (capacity : HasCapacity w.store agentId (now w.tick))
      (held : ∀ job ∈ claimRows w.store recoverable agentId, ∃ key, Blocked w.store agentId hostId job key)
      (oldest : Oldest w.store agentId hostId (claimRows w.store recoverable agentId) blocked)
      (full : leaseClaimScanLimit ≤ (claimRows w.store recoverable agentId).length) :
      NoCandidate w agentId hostId recoverable "scan_limit_reached" blocked
  | resourceBlocked (blocked : BlockedCandidate) (nonempty : claimRows w.store recoverable agentId ≠ [])
      (capacity : HasCapacity w.store agentId (now w.tick))
      (held : ∀ job ∈ claimRows w.store recoverable agentId, ∃ key, Blocked w.store agentId hostId job key)
      (oldest : Oldest w.store agentId hostId (claimRows w.store recoverable agentId) blocked)
      (short : (claimRows w.store recoverable agentId).length < leaseClaimScanLimit) :
      NoCandidate w agentId hostId recoverable "resource_blocked" blocked

/-- The selection of a candidate, first in, first out. -/
structure FifoSelection (w : Work Db) (agentId hostId : String) (recoverable : Bool) : Prop where
  readOnly : ((selectClaimCandidate agentId hostId recoverable).run w).final.store = w.store
  selects : ∀ job authority, Returns w agentId hostId recoverable (.selected job authority) ↔
    HasCapacity w.store agentId (now w.tick) ∧ job ∈ claimRows w.store recoverable agentId ∧
      Takeable w.store agentId hostId job authority ∧
      OlderBlocked w.store agentId hostId (claimRows w.store recoverable agentId) job
  waits : ∀ reason blocked, Returns w agentId hostId recoverable (.refused reason blocked) ↔
    NoCandidate w agentId hostId recoverable reason blocked
  raises : ∀ e, (∃ w', (selectClaimCandidate agentId hostId recoverable).run w = .error e w') ↔
    claimRows w.store recoverable agentId ≠ [] ∧
      ((∃ policy problem, resolveCapacityPolicy w.store agentId = some policy ∧
          countActiveLeasesForAgent w.store agentId (now w.tick) = .error problem ∧ e = .lease problem) ∨
        HasCapacity w.store agentId (now w.tick) ∧ ∃ job ∈ claimRows w.store recoverable agentId,
          Refuses w.store agentId hostId job e ∧
            OlderBlocked w.store agentId hostId (claimRows w.store recoverable agentId) job)
  fair : ∀ job authority, Returns w agentId hostId recoverable (.selected job authority) →
    ∀ other ∈ w.store.jobs, isClaimable recoverable agentId other = true → queueOrder other job = true →
      ∃ key, Blocked w.store agentId hostId other key ∧ key ≠ authority.resourceKey

/-- How a selection goes on, by the capacity of the agent. -/
inductive Proceeds (w : Work Db) (agentId hostId : String) (recoverable : Bool) : Prop
  | empty (unclaimed : claimRows w.store recoverable agentId = [])
      (run : (selectClaimCandidate agentId hostId recoverable).run w = .ok (.refused "queue_empty" none) w)
  | lacks (nonempty : claimRows w.store recoverable agentId ≠ []) (lacks : LacksCapacity w.store agentId (now w.tick))
      (w' : Work Db) (kept : w'.store = w.store)
      (run : (selectClaimCandidate agentId hostId recoverable).run w = .ok (.refused "capacity_exhausted" none) w')
  | uncounted (nonempty : claimRows w.store recoverable agentId ≠ []) (policy : CapacityPolicyRow)
      (problem : LeaseError) (resolved : resolveCapacityPolicy w.store agentId = some policy)
      (counted : countActiveLeasesForAgent w.store agentId (now w.tick) = .error problem)
      (run : (selectClaimCandidate agentId hostId recoverable).run w =
        .error (.lease problem) { w with tick := w.tick + 1 })
  | scans (nonempty : claimRows w.store recoverable agentId ≠ []) (capacity : HasCapacity w.store agentId (now w.tick))
      (run : (selectClaimCandidate agentId hostId recoverable).run w =
        match scanCandidates w.store agentId hostId none (claimRows w.store recoverable agentId) with
        | .error e => .error e { w with tick := w.tick + 1 }
        | .ok (some (job, authority), _) => .ok (.selected job authority) { w with tick := w.tick + 1 }
        | .ok (none, blocked) =>
          if (claimRows w.store recoverable agentId).length ≥ leaseClaimScanLimit then
            .ok (.refused "scan_limit_reached" blocked) { w with tick := w.tick + 1 }
          else .ok (.refused "resource_blocked" blocked) { w with tick := w.tick + 1 })

theorem proceeds : Proceeds w agentId hostId recoverable := by
  have run := @selectClaimCandidate_run _ w agentId hostId recoverable
  by_cases empty : claimRows w.store recoverable agentId = []
  · rw [if_pos empty] at run
    exact .empty empty run
  rw [if_neg empty] at run
  cases resolved : resolveCapacityPolicy w.store agentId with
  | none =>
    rw [resolved] at run
    refine .lacks empty (fun policy same => ?_) w rfl run
    cases resolved.symm.trans same
  | some policy =>
    rw [resolved] at run
    cases counted : countActiveLeasesForAgent w.store agentId (now w.tick) with
    | error problem =>
      rw [counted] at run
      exact .uncounted empty policy problem resolved counted run
    | ok count =>
      rw [counted] at run
      dsimp only at run
      by_cases full : (count : Int) ≥ policy.maxConcurrentJobs
      · rw [if_pos full] at run
        refine .lacks empty (fun policy' same => ?_) { w with tick := w.tick + 1 } rfl run
        cases resolved.symm.trans same
        exact ⟨count, counted, full⟩
      · rw [if_neg full] at run
        exact .scans empty ⟨policy, count, resolved, counted, by omega⟩ run

/-- Capacity is there or lacks, not both. -/
theorem HasCapacity.not_lacks {db : Db} {current : Nat} (capacity : HasCapacity db agentId current) :
    ¬ LacksCapacity db agentId current := by
  obtain ⟨policy, count, resolved, counted, less⟩ := capacity
  intro lacks
  obtain ⟨count', counted', more⟩ := lacks policy resolved
  cases counted.symm.trans counted'
  omega

theorem HasCapacity.counts {db : Db} {current : Nat} {problem : LeaseError} (capacity : HasCapacity db agentId current) :
    countActiveLeasesForAgent db agentId current ≠ .error problem := by
  obtain ⟨policy, count, resolved, counted, less⟩ := capacity
  rw [counted]
  exact fun same => by cases same

theorem selects_iff (job : JobRow) (authority : ValidatedAuthority) :
    Returns w agentId hostId recoverable (.selected job authority) ↔
      HasCapacity w.store agentId (now w.tick) ∧ job ∈ claimRows w.store recoverable agentId ∧
        Takeable w.store agentId hostId job authority ∧
        OlderBlocked w.store agentId hostId (claimRows w.store recoverable agentId) job := by
  have scan := @scan_selected_iff _ w.store agentId hostId job _ (@claimRows_ordered w.store recoverable agentId)
    authority
  cases @proceeds _ w agentId hostId recoverable with
  | empty unclaimed run =>
    rw [Returns, run, unclaimed]
    constructor
    · rintro ⟨_, same⟩
      cases same
    · rintro ⟨-, member, -⟩
      cases member
  | lacks _ lacks w' _ run =>
    rw [Returns, run]
    constructor
    · rintro ⟨_, same⟩
      cases same
    · rintro ⟨capacity, -⟩
      exact absurd lacks capacity.not_lacks
  | uncounted _ policy problem _ counted run =>
    rw [Returns, run]
    constructor
    · rintro ⟨_, same⟩
      cases same
    · rintro ⟨capacity, -⟩
      exact absurd counted capacity.counts
  | scans _ capacity run =>
    rw [Returns, run, ← scan]
    constructor
    · rintro ⟨w', same⟩
      split at same
      · cases same
      · rename_i found
        cases same
        exact ⟨capacity, _, found⟩
      · split_ifs at same <;> cases same
    · rintro ⟨-, blocked, found⟩
      rw [found]
      exact ⟨_, rfl⟩

theorem waits_iff (reason : String) (blocked : BlockedCandidate) :
    Returns w agentId hostId recoverable (.refused reason blocked) ↔
      NoCandidate w agentId hostId recoverable reason blocked := by
  cases @proceeds _ w agentId hostId recoverable with
  | empty unclaimed run =>
    rw [Returns, run]
    constructor
    · rintro ⟨_, same⟩
      cases same
      exact .queueEmpty unclaimed
    · intro why
      cases why with
      | queueEmpty => exact ⟨w, rfl⟩
      | capacityExhausted nonempty => exact absurd unclaimed nonempty
      | scanLimitReached _ _ _ _ full =>
        rw [unclaimed] at full
        exact absurd full (by decide)
      | resourceBlocked _ nonempty => exact absurd unclaimed nonempty
  | lacks nonempty lacks w' _ run =>
    rw [Returns, run]
    constructor
    · rintro ⟨_, same⟩
      cases same
      exact .capacityExhausted nonempty lacks
    · intro why
      cases why with
      | queueEmpty unclaimed => exact absurd unclaimed nonempty
      | capacityExhausted => exact ⟨w', rfl⟩
      | scanLimitReached _ capacity => exact absurd lacks capacity.not_lacks
      | resourceBlocked _ _ capacity => exact absurd lacks capacity.not_lacks
  | uncounted nonempty policy problem resolved counted run =>
    rw [Returns, run]
    constructor
    · rintro ⟨_, same⟩
      cases same
    · intro why
      cases why with
      | queueEmpty unclaimed => exact absurd unclaimed nonempty
      | capacityExhausted _ lacks =>
        obtain ⟨count, counted', -⟩ := lacks policy resolved
        cases counted.symm.trans counted'
      | scanLimitReached _ capacity => exact absurd counted capacity.counts
      | resourceBlocked _ _ capacity => exact absurd counted capacity.counts
  | scans nonempty capacity run =>
    rw [Returns, run]
    constructor
    · rintro ⟨w', same⟩
      split at same
      · cases same
      · cases same
      · rename_i oldest scan
        obtain ⟨held, front⟩ := scan_exhausted_iff.mp scan
        split_ifs at same with full
        · cases same
          exact .scanLimitReached _ capacity held front full
        · cases same
          exact .resourceBlocked _ nonempty capacity held front (by omega)
    · intro why
      cases why with
      | queueEmpty unclaimed => exact absurd unclaimed nonempty
      | capacityExhausted _ lacks => exact absurd lacks capacity.not_lacks
      | scanLimitReached _ _ held oldest full =>
        rw [scan_exhausted_iff.mpr ⟨held, oldest⟩]
        exact ⟨_, if_pos full⟩
      | resourceBlocked _ _ _ held oldest short =>
        rw [scan_exhausted_iff.mpr ⟨held, oldest⟩]
        exact ⟨_, if_neg (by omega)⟩

theorem raises_iff (e : Exn) :
    (∃ w', (selectClaimCandidate agentId hostId recoverable).run w = .error e w') ↔
      claimRows w.store recoverable agentId ≠ [] ∧
        ((∃ policy problem, resolveCapacityPolicy w.store agentId = some policy ∧
            countActiveLeasesForAgent w.store agentId (now w.tick) = .error problem ∧ e = .lease problem) ∨
          HasCapacity w.store agentId (now w.tick) ∧ ∃ job ∈ claimRows w.store recoverable agentId,
            Refuses w.store agentId hostId job e ∧
              OlderBlocked w.store agentId hostId (claimRows w.store recoverable agentId) job) := by
  have scan := @scan_raises_iff _ w.store agentId hostId _ (@claimRows_ordered w.store recoverable agentId) e
  cases @proceeds _ w agentId hostId recoverable with
  | empty unclaimed run =>
    rw [run]
    constructor
    · rintro ⟨_, same⟩
      cases same
    · rintro ⟨nonempty, -⟩
      exact absurd unclaimed nonempty
  | lacks nonempty lacks w' _ run =>
    rw [run]
    constructor
    · rintro ⟨_, same⟩
      cases same
    · rintro ⟨-, ⟨policy, problem, resolved, counted, -⟩ | ⟨capacity, -⟩⟩
      · obtain ⟨count, counted', -⟩ := lacks policy resolved
        cases counted.symm.trans counted'
      · exact absurd lacks capacity.not_lacks
  | uncounted nonempty policy problem resolved counted run =>
    rw [run]
    constructor
    · rintro ⟨_, same⟩
      cases same
      exact ⟨nonempty, .inl ⟨policy, problem, resolved, counted, rfl⟩⟩
    · rintro ⟨-, ⟨_, _, _, counted', rfl⟩ | ⟨capacity, -⟩⟩
      · cases counted.symm.trans counted'
        exact ⟨_, rfl⟩
      · exact absurd counted capacity.counts
  | scans nonempty capacity run =>
    rw [run, ← scan]
    constructor
    · rintro ⟨w', same⟩
      split at same
      · rename_i raised
        cases same
        exact ⟨nonempty, .inr ⟨capacity, raised⟩⟩
      · cases same
      · split_ifs at same
    · rintro ⟨-, ⟨_, _, _, counted, -⟩ | ⟨-, raised⟩⟩
      · exact absurd counted capacity.counts
      · rw [raised]
        exact ⟨_, rfl⟩

theorem selection_readOnly : ((selectClaimCandidate agentId hostId recoverable).run w).final.store = w.store := by
  cases @proceeds _ w agentId hostId recoverable with
  | empty _ run => rw [run, EStateM.Result.final_ok]
  | lacks _ _ w' kept run => rw [run, EStateM.Result.final_ok, kept]
  | uncounted _ _ _ _ _ run => rw [run, EStateM.Result.final_error]
  | scans _ _ run =>
    rw [run]
    split
    · rfl
    · rfl
    · split_ifs <;> rfl

/-- **A claim takes the oldest scanned job whose resource is free, and passes over held ones only.** -/
theorem fifo_claim_selection : FifoSelection w agentId hostId recoverable where
  readOnly := selection_readOnly
  selects := selects_iff
  waits := waits_iff
  raises := raises_iff
  fair job authority selected other member claimable older := by
    obtain ⟨-, scanned, takeable, blocked⟩ := (selects_iff job authority).mp selected
    obtain ⟨key, held⟩ := blocked other (older_scanned scanned member claimable older) older
    refine ⟨key, held, ?_⟩
    rintro rfl
    obtain ⟨lease, member, own, active⟩ := held.lease
    exact takeable.free lease member own active

end Selection

end Coordinate

namespace Coordinate.Sample

/-- A waiting job of an agent without a capacity policy. -/
def waitingJob : JobRow where
  id := "j"
  workspaceId := "w"
  taskId := none
  runnerProfileId := "a"
  assignedAgent := "a"
  status := .pending
  payloadJson := .value (.obj [])
  createdAt := 0
  updatedAt := 0

def uncapped : Work Db :=
  { initialWork with store := { configured with jobs := tableOf waitingJob, capacityPolicies := .empty } }

/-- Without a capacity policy a selection reports no candidate, although no lease holds a resource. -/
theorem uncapped_waits : ¬ ∀ (w : Work Db) agentId hostId recoverable reason blocked,
    Returns w agentId hostId recoverable (.refused reason blocked) →
      ∀ job ∈ claimRows w.store recoverable agentId, ∃ key, Blocked w.store agentId hostId job key := by
  intro every
  have waits : Returns uncapped "a" "h" false (.refused "capacity_exhausted" none) := ⟨uncapped, rfl⟩
  obtain ⟨key, held⟩ := every _ _ _ _ _ _ waits waitingJob (by decide +kernel)
  obtain ⟨lease, member, -⟩ := held.lease
  cases member

end Coordinate.Sample

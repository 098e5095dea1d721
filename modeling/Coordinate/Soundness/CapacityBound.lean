import Coordinate.Model.Installation
import Coordinate.Proofs.Runs

/-! # The capacity bound

A reservation counts the active, unexpired leases of its agent against the capacity policy and adds one more.
Nothing but the next reservation of the agent adds to them: a renewal finds its lease unexpired, and every other
statement ends leases or leaves them.
-/

namespace Coordinate

section Leases

/-- Whether the lease counts against the capacity of the agent at a time. -/
def isHeld (agentId : String) (current : Nat) (lease : LeaseRow) : Bool :=
  lease.agentId = agentId && lease.status = .active && lease.expiresAt > current

/-- How many leases the agent holds at a time. -/
def heldCount (db : Db) (agentId : String) (current : Nat) : Nat :=
  db.leases.rows.countP (isHeld agentId current)

variable {s t : Db} {agentId : String} {current later : Nat}

theorem isHeld_iff {lease : LeaseRow} : isHeld agentId current lease = true ↔
    lease.agentId = agentId ∧ lease.status = .active ∧ current < lease.expiresAt := by
  simp [isHeld, and_assoc]

theorem heldCount_of_count [Platform] {count : Nat}
    (counted : countActiveLeasesForAgent s agentId current = .ok count) : heldCount s agentId current = count := by
  simp only [countActiveLeasesForAgent, Except.bind_ok] at counted
  obtain ⟨_, _, same⟩ := counted
  cases same
  exact List.countP_eq_length_filter

theorem heldCount_of_leases (same : t.leases = s.leases) : heldCount t agentId current = heldCount s agentId current := by
  rw [heldCount, heldCount, same]

/-- Leases only run out as time goes on. -/
theorem heldCount_mono (after : current ≤ later) : heldCount s agentId later ≤ heldCount s agentId current := by
  refine List.countP_mono_left fun lease _ held => ?_
  obtain ⟨agent, active, unexpired⟩ := isHeld_iff.mp held
  exact isHeld_iff.mpr ⟨agent, active, by omega⟩

theorem heldCount_insert {lease : LeaseRow} (inserted : s.leases.insert? lease = some t.leases) :
    heldCount t agentId current = heldCount s agentId current + if isHeld agentId current lease then 1 else 0 := by
  rw [heldCount, Table.insert?_rows inserted, List.countP_append, List.countP_singleton]
  rfl

/-- What a statement may make of a lease: one of the agent that is held only if it was held before. -/
structure KeepsLease (current : Nat) (old new : LeaseRow) : Prop where
  leaseId : new.leaseId = old.leaseId
  agentId : new.agentId = old.agentId
  held : ∀ agentId, isHeld agentId current new = true → isHeld agentId current old = true

/-- Each lease stays or is rewritten. -/
def Rewrites (current : Nat) (s t : Db) : Prop :=
  ∃ rewrite : LeaseRow → LeaseRow, t.leases.rows = s.leases.rows.map rewrite ∧
    ∀ lease ∈ s.leases, KeepsLease current lease (rewrite lease)

theorem KeepsLease.refl (lease : LeaseRow) : KeepsLease current lease lease := ⟨rfl, rfl, fun _ => id⟩

theorem Rewrites.of_leases (same : t.leases = s.leases) : Rewrites current s t :=
  ⟨id, by rw [same, List.map_id], fun lease _ => .refl lease⟩

theorem Rewrites.of_update {p : LeaseRow → Bool} {f : LeaseRow → LeaseRow}
    (updated : s.leases.update? p f = some t.leases)
    (each : ∀ lease ∈ s.leases, p lease = true → KeepsLease current lease (f lease)) : Rewrites current s t := by
  refine ⟨_, Table.update?_rows updated, fun lease member => ?_⟩
  split
  · rename_i chosen
    exact each lease member chosen
  · exact .refl lease

/-- A statement that ends the leases it reaches. -/
theorem Rewrites.of_ended {p : LeaseRow → Bool} {f : LeaseRow → LeaseRow}
    (updated : s.leases.update? p f = some t.leases)
    (ends : ∀ lease, (f lease).leaseId = lease.leaseId ∧ (f lease).agentId = lease.agentId ∧
      (f lease).status ≠ .active) : Rewrites current s t :=
  of_update updated fun lease _ _ =>
    have ⟨leaseId, agentId, ended⟩ := ends lease
    ⟨leaseId, agentId, fun _ held => absurd (isHeld_iff.mp held).2.1 ended⟩

theorem Rewrites.heldCount_le (rewrites : Rewrites current s t) :
    heldCount t agentId current ≤ heldCount s agentId current := by
  obtain ⟨rewrite, rows, each⟩ := rewrites
  rw [heldCount, rows, List.countP_map]
  exact List.countP_mono_left fun lease member held => (each lease member).held agentId held

/-- A transition inserts a lease, or it makes no agent hold more. -/
theorem Transition.leases [Platform] {since : Nat} (steady : ∀ n, since ≤ n → now since ≤ now n)
    (transition : Transition since s t) :
    Rewrites (now since) s t ∨ ∃ lease, s.leases.insert? lease = some t.leases := by
  cases transition with
  | quiet same => exact .inl (.of_leases (queue_eq.mp same).2)
  | created ran =>
    obtain ⟨jobs, _, _, _, _, _, store, _⟩ := createJob_ok ran
    exact .inl (.of_leases (by rw [store]))
  | progressed ran =>
    obtain ⟨_, jobs, _, _, _, _, _, _, _, store⟩ := recordJobProgressBody_ok ran
    exact .inl (.of_leases (queue_eq.mp (queue_of_accounts store)).2)
  | @renewed w w' leaseId jobId agentId attemptToken ttlSeconds result late ran =>
    obtain ⟨_, _, lease, leases, _, _, _, _, authorizes, _, _, updated, store⟩ := renewManagedLeaseBody_ok ran
    have same : w'.store.leases = leases := congrArg (·.1.2) store
    subst same
    refine .inl (.of_update updated fun row member chosen => ⟨rfl, rfl, fun agent held => ?_⟩)
    -- the renewal has found the lease unexpired
    have own : row = lease := lease_unique member authorizes.member ((of_decide_eq_true chosen).trans authorizes.leaseId.symm)
    have unexpired := (steady _ late).trans_lt authorizes.unexpired
    rw [own] at held ⊢
    exact isHeld_iff.mpr ⟨(isHeld_iff.mp held).1, authorizes.active, unexpired⟩
  | @expired w w' lease actor current job member active expires =>
    obtain ⟨leases, jobs, updated, _, store⟩ := expires.activity
    have same : w'.store.leases = leases := congrArg (·.1.2) store
    subst same
    exact .inl (.of_ended updated fun _ => ⟨rfl, rfl, by simp [expiredLease]⟩)
  | started => exact .inl (.of_leases rfl)
  | @claimed w w' request hostId recovery requestDigest current job authority result selects ran =>
    obtain ⟨jobs, reserved, leased, _, _, reservedRan, _, same⟩ := startManagedAttempt_queue ran
    obtain ⟨_, _, _, _, _, _, ⟨_, _, _, _, store⟩ | ⟨_, _, leases, inserted, rfl⟩⟩ := reserveAttemptLease_ok reservedRan
    · exact .inl (.of_leases (by rw [same, store]))
    · have own : w'.store.leases = leases := same
      subst own
      exact .inr ⟨_, inserted⟩
  | @reported w w' report status job result usage current outcome ran =>
    obtain ⟨stored, jobs, leases, _, _, _, _, _, ends, store⟩ := reportRunningBody_activity ran
    have same : w'.store.leases = leases := congrArg (·.1.2) store
    subst same
    cases ends with
    | unmanaged none same => exact .inl (.of_leases same)
    | managed lease current releasedAt token leaseId authorizes updated =>
      exact .inl (.of_ended updated fun _ => ⟨rfl, rfl, by simp [releasedLease]⟩)
  | late ran matched =>
    obtain ⟨_, jobs, _, _, _, _, _, _, _, _, rfl⟩ := swapLateJob_ok ran
    exact .inl (.of_leases rfl)
  | cancelled member freed stopped =>
    cases freed with
    | free none same => exact .inl (.of_leases same)
    | released lease leaseMember jobId token releasedAt updated =>
      exact .inl (.of_ended updated fun _ => ⟨rfl, rfl, by simp [releasedLease]⟩)

end Leases

section Bounds

/-- The agent has got a lease that `base` does not have. -/
def HasNewer (base : Db) (agentId : String) (t : Db) : Prop :=
  ∃ newer ∈ t.leases, newer.agentId = agentId ∧ ∀ old ∈ base.leases, newer.leaseId ≠ old.leaseId

/-- The leases of `base` are there, and unless the agent has got another one it holds no more than the bound. -/
structure HoldsAtMost (base : Db) (agentId : String) (current : Nat) (bound : Int) (t : Db) : Prop where
  kept : ∀ old ∈ base.leases, ∃ lease ∈ t.leases, lease.leaseId = old.leaseId
  within : HasNewer base agentId t ∨ (heldCount t agentId current : Int) ≤ bound

variable {base s t : Db} {agentId : String} {current : Nat} {bound : Int}

theorem HoldsAtMost.rewrites (bounded : HoldsAtMost base agentId current bound s) (rewrites : Rewrites current s t) :
    HoldsAtMost base agentId current bound t := by
  have fewer : heldCount t agentId current ≤ heldCount s agentId current := rewrites.heldCount_le
  obtain ⟨rewrite, rows, each⟩ := rewrites
  have moved : ∀ lease ∈ s.leases, rewrite lease ∈ t.leases := fun lease member => by
    rw [Table.mem_def, rows]
    exact List.mem_map_of_mem member
  refine ⟨fun old member => ?_, ?_⟩
  · obtain ⟨lease, leaseMember, id⟩ := bounded.kept old member
    exact ⟨rewrite lease, moved lease leaseMember, (each lease leaseMember).leaseId.trans id⟩
  · obtain ⟨newer, member, agent, other⟩ | few := bounded.within
    · have keeps := each newer member
      exact .inl ⟨rewrite newer, moved newer member, keeps.agentId.trans agent,
        fun old oldMember => by rw [keeps.leaseId]; exact other old oldMember⟩
    · exact .inr (by omega)

theorem HoldsAtMost.inserts (bounded : HoldsAtMost base agentId current bound s) {lease : LeaseRow}
    (inserted : s.leases.insert? lease = some t.leases) : HoldsAtMost base agentId current bound t := by
  have grown : ∀ old ∈ s.leases, old ∈ t.leases := fun old member => (Table.mem_insert? inserted).mpr (.inl member)
  refine ⟨fun old member => ?_, ?_⟩
  · obtain ⟨kept, keptMember, id⟩ := bounded.kept old member
    exact ⟨kept, grown kept keptMember, id⟩
  · obtain ⟨newer, member, newer'⟩ | few := bounded.within
    · exact .inl ⟨newer, grown newer member, newer'⟩
    · by_cases own : lease.agentId = agentId
      · refine .inl ⟨lease, (Table.mem_insert? inserted).mpr (.inr rfl), own, fun old member same => ?_⟩
        obtain ⟨kept, keptMember, id⟩ := bounded.kept old member
        have distinct := (Table.insert?_fits inserted).2 kept keptMember
        simp [leaseSchema, LeaseRow.clash, id, same] at distinct
      · have free : ¬ isHeld agentId current lease = true := fun held => own (isHeld_iff.mp held).1
        rw [heldCount_insert inserted, if_neg free]
        exact .inr few

theorem HoldsAtMost.moving [Platform] {since : Nat} (steady : ∀ n, since ≤ n → now since ≤ now n) :
    Moving since (HoldsAtMost base agentId (now since) bound) :=
  Closed.moving fun _ _ transition bounded =>
    (transition.leases steady).elim bounded.rewrites fun ⟨_, inserted⟩ => bounded.inserts inserted

variable [Platform] {jobId runnerProfileId hostId worktreePath : String} {attemptToken ttlSeconds : Int}
  {reserved : ReservedLease} {w w' : Work Db}

theorem checkNoConflict_ok {db : Db} {reservedAt counted : Nat} {resourceKey : String} {bound : Int}
    (ran : checkNoConflict db reservedAt counted agentId runnerProfileId resourceKey bound = .ok ()) :
    (heldCount db agentId counted : Int) < bound := by
  unfold checkNoConflict at ran
  obtain ⟨held, _, ran⟩ := Except.bind_ok.mp ran
  split at ran
  · obtain ⟨_, _, lost⟩ := Except.bind_ok.mp ran
    cases lost
  · simp only [Except.bind_ok, raiseIf_except_ok] at ran
    obtain ⟨count, found, _, room, _⟩ := ran
    rw [heldCount_of_count found]
    omega

/-- A reservation that is no replay has counted the leases of its agent, and there was room for one more. -/
theorem reserveAttemptLease_counts
    (ran : (reserveAttemptLease jobId attemptToken agentId runnerProfileId hostId worktreePath ttlSeconds).run w =
      .ok reserved w') (inserted : reserved.replayed = false) :
    ∃ policy lease, resolveCapacityPolicy w.store agentId = some policy ∧
      (heldCount w.store agentId (now (w.tick + 1)) : Int) < policy.maxConcurrentJobs ∧
      lease.leaseId = reserved.leaseId ∧ lease.agentId = agentId ∧ lease.status = .active ∧
      lease.maxConcurrentJobs = policy.maxConcurrentJobs ∧
      w.store.leases.insert? lease = some w'.store.leases ∧ w'.tick = w.tick + 2 := by
  simp only [reserveAttemptLease, Txn.bind_ok, Txn.orRaise_ok, Txn.read_run, id_eq, EStateM.Result.ok.injEq,
    utcNow_run] at ran
  obtain ⟨_, _, ⟨_, rfl⟩, _, _, ⟨_, rfl⟩, _, _, ⟨rfl, rfl⟩, ⟨policy, resource⟩, _, ⟨checked, rfl⟩, _, _, ⟨rfl, rfl⟩,
    ran⟩ := ran
  obtain ⟨job, reserves⟩ := checkReservation_ok checked
  split at ran
  · simp only [Txn.bind_ok, Txn.orRaise_ok, Txn.raiseIf_ok, Txn.pure_run, EStateM.Result.ok.injEq] at ran
    obtain ⟨_, _, ⟨_, rfl⟩, _, _, ⟨_, rfl⟩, rfl, rfl⟩ := ran
    cases inserted
  · simp only [Txn.bind_ok, Txn.orRaise_ok, utcNow_run, newUuid_run, EStateM.Result.ok.injEq, insertLease_ok,
      Txn.pure_run] at ran
    obtain ⟨_, _, ⟨rfl, rfl⟩, _, _, ⟨fits, rfl⟩, _, _, ⟨rfl, rfl⟩, _, _, ⟨leases, insertion, rfl⟩, rfl, rfl⟩ := ran
    exact ⟨policy, _, reserves.policy, checkNoConflict_ok fits, rfl, rfl, rfl, rfl, insertion, rfl⟩

/-- At the moment a reservation inserts a lease, the agent holds no more active, unexpired leases than its capacity
policy allows, the new one included, and so it is in every later state of every run until the agent gets its next
lease, provided that the clock does not go back. -/
theorem reservation_within_capacity (steady : ∀ m n, w.tick ≤ m → m ≤ n → now m ≤ now n)
    (ran : (reserveAttemptLease jobId attemptToken agentId runnerProfileId hostId worktreePath ttlSeconds).run w =
      .ok reserved w') (inserted : reserved.replayed = false) :
    ∃ policy, resolveCapacityPolicy w.store agentId = some policy ∧
      (∃ lease ∈ w'.store.leases, lease.leaseId = reserved.leaseId ∧ lease.agentId = agentId ∧
        lease.status = .active ∧ lease.maxConcurrentJobs = policy.maxConcurrentJobs) ∧
      ∀ next later, next.store.leases = w'.store.leases → w'.tick ≤ next.tick →
        Relation.ReflTransGen Step next later →
        HasNewer w'.store agentId later.store ∨ ∀ current, now w'.tick ≤ current →
          (heldCount later.store agentId current : Int) ≤ policy.maxConcurrentJobs := by
  obtain ⟨policy, lease, resolved, room, id, agent, active, recorded, insertion, tick⟩ :=
    reserveAttemptLease_counts ran inserted
  refine ⟨policy, resolved, ⟨lease, (Table.mem_insert? insertion).mpr (.inr rfl), id, agent, active, recorded⟩,
    fun next later same after steps => ?_⟩
  have counted : now (w.tick + 1) ≤ now w'.tick := steady _ _ (by omega) (by omega)
  have bounded : HoldsAtMost w'.store agentId (now w'.tick) policy.maxConcurrentJobs next.store := by
    refine ⟨fun old member => ⟨old, same ▸ member, rfl⟩, .inr ?_⟩
    have fewer : heldCount w.store agentId _ ≤ heldCount w.store agentId _ := heldCount_mono counted
    rw [heldCount_of_leases same, heldCount_insert insertion]
    split <;> omega
  have kept := (HoldsAtMost.moving fun n late => steady _ n (by omega) late).later after steps bounded
  refine kept.within.imp_right fun few current late => ?_
  have fewer : heldCount later.store agentId _ ≤ heldCount later.store agentId _ := heldCount_mono late
  omega

end Bounds

namespace Sample

/-- The sample platform with a clock that stops at the end of the day. -/
@[reducible] def steadyPlatform : Platform := { platform fun _ => zeroDigest with
  clock := fun n => clock (min n 86399)
  clock_bound := fun n => (platform fun _ => zeroDigest).clock_bound (min n 86399) }

/-- A job of the typed agent whose first attempt has just been swapped in. -/
def swapped : Work Db :=
  let work := @runCalls steadyPlatform { initialWork with store := configured } [.syncCatalog typedCatalog, .submit request]
  let jobs := work.store.jobs.update? (·.id = jobId) fun job => { job with status := .running, attemptCount := 1 }
  { work with store := { work.store with jobs := jobs.getD work.store.jobs } }

def reservation : EStateM.Result Exn (Work Db) ReservedLease :=
  (@reserveAttemptLease steadyPlatform jobId 1 "a" "a" "h" "/w" 120).run swapped

theorem steady_clock (m n : Nat) (after : m ≤ n) : @now steadyPlatform m ≤ @now steadyPlatform n := by
  change clock (min m 86399) ≤ clock (min n 86399)
  unfold clock
  omega

/-- The one lease that the capacity of the agent allows. -/
theorem reserved_within_capacity : ∃ reserved w', reservation = .ok reserved w' ∧
    ∀ later, Relation.ReflTransGen (@Step steadyPlatform) w' later →
      HasNewer w'.store "a" later.store ∨ ∀ current, @now steadyPlatform w'.tick ≤ current →
        heldCount later.store "a" current ≤ 1 := by
  have ran : (match reservation with
      | .ok reserved _ => !reserved.replayed
      | .error _ _ => false) = true := by decide +kernel
  have single : (resolveCapacityPolicy swapped.store "a").map (·.maxConcurrentJobs) = some 1 := by decide +kernel
  split at ran
  · rename_i reserved w' result
    have inserted : reserved.replayed = false := (Bool.not_eq_true' _).mp ran
    obtain ⟨policy, resolved, _, bounded⟩ := @reservation_within_capacity "a" steadyPlatform jobId "a" "h" "/w" 1 120
      reserved swapped w' (fun m n _ after => steady_clock m n after) result inserted
    rw [resolved] at single
    have one : policy.maxConcurrentJobs = 1 := Option.some.inj single
    refine ⟨reserved, w', result, fun later steps => (bounded w' later rfl (Nat.le_refl _) steps).imp_right ?_⟩
    intro few current late
    have held := few current late
    omega
  · cases ran

end Sample

end Coordinate
